import MultiRelease.ClassFile.Stub
import MultiRelease.Main
import MultiRelease.Zip.Packing
import MultiRelease.Proofs.Sorted
import MultiRelease.Proofs.NameMap
import MultiRelease.Proofs.Text.Number
import MultiRelease.Proofs.Text.Cutting
import MultiRelease.Proofs.ClassFile.Reading
import MultiRelease.Proofs.ClassFile.Pooling
import MultiRelease.Proofs.ClassFile.StubRoundTrip
import MultiRelease.Proofs.ClassFile.ModifiedText
import MultiRelease.Proofs.ClassFile.TextReading
import MultiRelease.Proofs.ClassFile.FormatReading
import MultiRelease.Proofs.ClassFile.Truncation
import MultiRelease.Proofs.ClassFile.Storage
import MultiRelease.Proofs.ClassFile.UnusedTexts
import MultiRelease.Proofs.Files.Resolving
import MultiRelease.Proofs.Files.Order
import MultiRelease.Proofs.Files.Tree
import MultiRelease.Proofs.Files.Outline
import MultiRelease.Proofs.Files.Below
import MultiRelease.Proofs.Files.Enumeration
import MultiRelease.Proofs.Platform.Shown
import MultiRelease.Proofs.Platform.Shared
import MultiRelease.Proofs.Location.OwnAnswer
import MultiRelease.Proofs.Location.BinaryFirst
import MultiRelease.Proofs.Location.SourceFiles
import MultiRelease.Proofs.Environment.Order
import MultiRelease.Proofs.Environment.FirstAnswer
import MultiRelease.Proofs.Environment.NewerRelease
import MultiRelease.Proofs.Environment.OwnModule
import MultiRelease.Proofs.Validation.Variants
import MultiRelease.Proofs.Validation.Comparison
import MultiRelease.Proofs.Validation.Substitution
import MultiRelease.Proofs.Validation.Distinct
import MultiRelease.Proofs.Validation.Exactness
import MultiRelease.Proofs.Validation.Collected
import MultiRelease.Proofs.Validation.OverlayFolders
import MultiRelease.Proofs.Validation.OrderIndependence
import MultiRelease.Proofs.Validation.Baselines
import MultiRelease.Proofs.Environment.AskedModule
import MultiRelease.Proofs.Environment.OldestRelease
import MultiRelease.Proofs.Environment.RewrittenFile
import MultiRelease.Proofs.Platform.SignatureFiles
import MultiRelease.Proofs.Platform.Standing
import MultiRelease.Proofs.Platform.OwningModule
import MultiRelease.Proofs.Platform.AcceptedModules
import MultiRelease.Proofs.Platform.NotedModules
import MultiRelease.Proofs.Platform.IndexedFiles
import MultiRelease.Proofs.Platform.ListedModules
import MultiRelease.Proofs.Platform.ImageContents
import MultiRelease.Proofs.Platform.ImageForms
import MultiRelease.Proofs.Location.History
import MultiRelease.Proofs.Location.Snapshots
import MultiRelease.Proofs.Module.Grammar
import MultiRelease.Proofs.Module.Layout
import MultiRelease.Proofs.Module.Rendering
import MultiRelease.Proofs.Module.Derivation
import MultiRelease.Proofs.Module.Compiled
import MultiRelease.Proofs.Module.Scanning
import MultiRelease.Proofs.Module.EarliestError
import MultiRelease.Proofs.Release.Compliance
import MultiRelease.Proofs.Platform.ReleaseIdentity
import MultiRelease.Proofs.ClassFile.StubTexts
import MultiRelease.Proofs.Platform.FolderIndex
import MultiRelease.Proofs.Environment.MarkedModule
import MultiRelease.Proofs.Location.Inside

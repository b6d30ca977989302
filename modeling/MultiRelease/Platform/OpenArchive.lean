import MultiRelease.Platform.Error
import MultiRelease.Zip.Archive

/-!
# Open archives

An archive is opened once: its directory is read then and kept.  The data of an entry are read from
the file when they are asked for, at the place that the directory stated, whatever the file holds
there by then.
-/

set_option autoImplicit false

namespace MultiRelease

/-- An archive whose directory has been read. -/
structure OpenArchive where
  file : OpenFile
  archive : Archive
deriving Repr, DecidableEq, Inhabited

/-- Opens the archive that a path names. -/
def Files.openArchive (files : Files) (path : Path) : Except PlatformError OpenArchive :=
  match files.openFile? path with
  | some file =>
    match (files.contentOf? file).bind fun content => Archive.ofBytes? content.data with
    | some archive => .ok ⟨file, archive⟩
    | none => .error (.badArchive path)
  | none => .error (if (files.entry? path).isSome then .badArchive path else .unreadable path)

/-- The data of the entry that is stored under exactly the given name, if there is one.  An error is
put down to a path.  The size that the directory states for the data (`Zip.Description.size`) is not
looked at: a reader may reserve room for that many bytes first, and fail if there cannot be so many.
This is left out. -/
def OpenArchive.read (opened : OpenArchive) (files : Files) (name : String) (blamed : Path) :
    Except PlatformError (Option (List UInt8)) :=
  match opened.archive.entry? name with
  | none => .ok none
  | some entry =>
    let content := (files.contentOf? opened.file).getD (.ofBytes [])
    match entry.packed.read content.data with
    | .ok data => .ok (some data.data.toList)
    | .error .unsupported => .error (.badArchive blamed)
    | .error .damaged => .error (.unreadable blamed)

end MultiRelease

import MultiRelease.Files

/-!
# Listings of packages

What a folder holds for a package, and the memory in which a location keeps what it saw.  A package
is looked at once: whatever happens to the folder later, the location keeps to what it saw first,
also when that was nothing.
-/

set_option autoImplicit false

namespace MultiRelease

/-- The sub-folders of a folder and the files whose names are accepted, in ascending order, and
whether there are such files.  Links are passed over. -/
def Files.members? (files : Files) (folder : Path) (accepts : String → Bool) :
    Option (List String × Bool) :=
  (files.list? folder).map fun entries =>
    let accepted := entries.filter fun (name, entry) => entry.isFile && accepts name
    let members := entries.filter fun (name, entry) =>
      entry.isFolder || (entry.isFile && accepts name)
    ((members.map (·.1)).mergeSort fun a b => decide (a ≤ b), !accepted.isEmpty)

/-- What was seen for each package that was looked at; `none` for a package that was not there. -/
structure Sightings (α : Type) where
  seen : List (String × Option α) := []
deriving Repr, Inhabited

namespace Sightings

variable {α : Type}

/-- What was seen for a package, looking now if it was not looked at before. -/
def look (sightings : Sightings α) (package : String) (probe : String → Option α) :
    Option α × Sightings α :=
  match sightings.seen.find? (·.1 = package) with
  | some (_, listing) => (listing, sightings)
  | none =>
    let listing := probe package
    (listing, ⟨sightings.seen ++ [(package, listing)]⟩)

end Sightings

end MultiRelease

/-!
# Maps with names as keys

The entries are kept in ascending order of their keys, which is the order in which they are listed
and shown.
-/

set_option autoImplicit false

namespace MultiRelease

/-- A map from names to values, as a list in ascending order of the names. -/
structure NameMap (α : Type) where
  entries : List (String × α) := []
deriving Repr, DecidableEq, Inhabited

namespace NameMap

variable {α : Type}

/-- Changes the value of one name within a list of entries. -/
def alterEntries (name : String) (change : Option α → α) : List (String × α) → List (String × α)
  | [] => [(name, change none)]
  | (other, value) :: rest =>
    if name < other then (name, change none) :: (other, value) :: rest
    else if name = other then (name, change (some value)) :: rest
    else (other, value) :: alterEntries name change rest

/-- Changes the value of one name, giving it one if it has none. -/
def alter (map : NameMap α) (name : String) (change : Option α → α) : NameMap α :=
  ⟨alterEntries name change map.entries⟩

/-- Sets the value of a name. -/
def insert (map : NameMap α) (name : String) (value : α) : NameMap α :=
  map.alter name fun _ => value

/-- Sets the value of a name that has none. -/
def insertIfAbsent (map : NameMap α) (name : String) (value : α) : NameMap α :=
  map.alter name fun old => old.getD value

/-- The value of a name. -/
def get? (map : NameMap α) (name : String) : Option α :=
  (map.entries.find? (·.1 = name)).map (·.2)

/-- Whether a name has a value. -/
def contains (map : NameMap α) (name : String) : Bool := map.entries.any (·.1 = name)

/-- The names with a value, in ascending order. -/
def keys (map : NameMap α) : List String := map.entries.map (·.1)

/-- The number of entries. -/
def size (map : NameMap α) : Nat := map.entries.length

/-- Whether no name has a value. -/
def isEmpty (map : NameMap α) : Bool := map.entries.isEmpty

/-- The map of a list of entries; the last value of a name counts. -/
def ofList (entries : List (String × α)) : NameMap α :=
  entries.foldl (fun map (name, value) => map.insert name value) {}

end NameMap

end MultiRelease

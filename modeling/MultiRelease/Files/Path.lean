import MultiRelease.Text.Segments

/-!
# Paths

A path is kept as the text in which it was given, because that is how it is shown.  Joining paths
therefore never tidies them up.  What a path *means* is its list of components: repeated slashes,
inner single dots and a slash at the end do not count.  Paths are the same when their components
are, and they are ordered by their components.
-/

set_option autoImplicit false

namespace MultiRelease

open Text

/-- A path as it was written. -/
structure Path where
  text : String
deriving Repr, DecidableEq, Inhabited

namespace Path

/-- One component of a path. -/
inductive Component where
  | root
  | current
  | parent
  | name (value : String)
deriving Repr, DecidableEq

namespace Component

/-- The order among the kinds of component. -/
def rank : Component → Nat
  | root => 0
  | current => 1
  | parent => 2
  | name _ => 3

/-- The order of components: by kind, then by name. -/
def precedes : Component → Component → Bool
  | name a, name b => a ≤ b
  | a, b => a.rank ≤ b.rank

end Component

/-- Whether the path starts at the root. -/
def isAbsolute (p : Path) : Bool := p.text.toList.head? = some '/'

/-- What lies between the slashes. -/
def segments (p : Path) : List String := Text.segments '/' p.text

/-- The components that a segment after the first contributes. -/
def segmentComponents (segment : String) : List Component :=
  if segment = "" ∨ segment = "." then []
  else if segment = ".." then [.parent]
  else [.name segment]

/-- The components of a path.  A dot counts only at the start of a relative path. -/
def components (p : Path) : List Component :=
  match p.segments with
  | [] => []
  | first :: others =>
    (if p.isAbsolute then [.root]
      else if first = "." then [.current]
      else segmentComponents first)
      ++ others.flatMap segmentComponents

/-- Whether two paths have the same components. -/
def same (p q : Path) : Bool := p.components = q.components

/-- Lexicographic order of lists of components. -/
def componentsPrecede : List Component → List Component → Bool
  | [], _ => true
  | _ :: _, [] => false
  | a :: as, b :: bs => if a = b then componentsPrecede as bs else a.precedes b

/-- The order of paths. -/
def precedes (p q : Path) : Bool := componentsPrecede p.components q.components

/-- The path `q`, taken from `p` unless it is absolute. -/
def join (p q : Path) : Path :=
  if q.isAbsolute then q
  else if p.text = "" then q
  else if hasSuffix "/" p.text then ⟨p.text ++ q.text⟩
  else ⟨p.text ++ "/" ++ q.text⟩

/-- The path of something with a relative name below `p`. -/
def child (p : Path) (name : String) : Path := p.join ⟨name⟩

/-- Whether a segment leads nowhere else. -/
def isIdle (segment : String) : Bool := segment = "" || segment = "."

/-- The segments up to the last one that is neither empty nor a dot. -/
def trimSegments : List String → List String
  | [] => []
  | segment :: others =>
    match trimSegments others with
    | [] => if isIdle segment then [] else [segment]
    | trimmed => segment :: trimmed

/-- The path without its last component; none for the root and for the empty path. -/
def parent? (p : Path) : Option Path :=
  match p.segments with
  | [] => none
  | first :: others =>
    match trimSegments others with
    | [] => if first = "" then none else some ⟨""⟩
    | trimmed =>
      match trimSegments trimmed.dropLast with
      | [] => some ⟨if p.isAbsolute then "/" else first⟩
      | front => some ⟨"/".intercalate (first :: front)⟩

/-- The segments behind those with the given names. -/
def segmentsAfter? : List String → List String → Option (List String)
  | [], segments => some (segments.dropWhile isIdle)
  | name :: names, segments =>
    match segments.dropWhile isIdle with
    | segment :: segments => if segment = name then segmentsAfter? names segments else none
    | [] => none

/-- What an absolute path says behind the names that lead from the root to some folder. -/
def after? (names : List String) (p : Path) : Option Path :=
  if p.isAbsolute then
    (segmentsAfter? names p.segments).map fun segments => ⟨"/".intercalate (trimSegments segments)⟩
  else none

/-- The names to follow, one after the other, to reach what the path names.  A slash at the end
asks for a folder, just as a dot does. -/
def steps (p : Path) : List String :=
  p.segments.filter (· ≠ "") ++ (if hasSuffix "/" p.text then ["."] else [])

end Path

/-- The part of a file name before its last dot, and the part after it, if the name has a dot other
than at its start. -/
def splitExtension (name : String) : Option (String × String) :=
  match cutLast '.' name with
  | some (stem, ending) => if stem = "" then none else some (stem, ending)
  | none => none

end MultiRelease

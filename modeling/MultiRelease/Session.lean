import MultiRelease.ClassFile.Decode
import MultiRelease.NameMap
import MultiRelease.Platform.SymbolArchive

/-!
# Build sessions

What the locations of one build share: the modules that are known for each place of modules, the
symbol archives that have been opened, and a record of the class files that were decoded.

The modules of a place are noted once.  Whoever comes later is given what was noted first.  A symbol
archive is opened once for each JDK, and only a successful opening is remembered.

Several sessions are kept under names (`Sessions`), for classpaths whose locations do not all share
one.
-/

set_option autoImplicit false

namespace MultiRelease

/-- Module descriptors under the names of their modules. -/
abbrev ModuleMap := NameMap ModuleDescriptor

/-- The modules known for each place of modules, the place being named by a text. -/
structure ModuleCache where
  places : NameMap ModuleMap := {}
deriving Repr, DecidableEq, Inhabited

namespace ModuleCache

/-- The modules of a place. -/
def get? (cache : ModuleCache) (place : String) : Option ModuleMap := cache.places.get? place

/-- Whether the modules of a place are known. -/
def contains (cache : ModuleCache) (place : String) : Bool := cache.places.contains place

/-- Notes the modules of a place, unless they are known already. -/
def note (cache : ModuleCache) (place : String) (modules : ModuleMap) : ModuleCache :=
  ⟨cache.places.insertIfAbsent place modules⟩

/-- The number of places. -/
def size (cache : ModuleCache) : Nat := cache.places.size

/-- The names of the modules of a place, of all or of those in a list. -/
def namesAt (cache : ModuleCache) (place : String) (limit : Option (List String)) :
    List String :=
  match cache.get? place with
  | none => []
  | some modules =>
    match limit with
    | none => modules.keys
    | some limit => modules.keys.filter fun name => limit.contains name

end ModuleCache

/-- What the locations of one build share. -/
structure Session where
  modules : ModuleCache := {}
  /-- The opened symbol archives, under the homes of their JDKs. -/
  archives : List (Path × SymbolArchive) := []
  /-- The names under which class files were handed to the decoder, in order. -/
  decoded : List String := []
deriving Inhabited

namespace Session

/-- Decodes a class file and records its name. -/
def decode (session : Session) (bytes : List UInt8) (name : String) :
    Except ClassFileError BinaryType × Session :=
  (parseBinaryType bytes, { session with decoded := session.decoded ++ [name] })

/-- Notes the modules of a place, unless they are known already. -/
def noteModules (session : Session) (place : String) (modules : ModuleMap) : Session :=
  { session with modules := session.modules.note place modules }

/-- The symbol archive of the JDK with the given home, opened now if need be. -/
def symbolArchive (session : Session) (files : Files) (home : Path) :
    Except PlatformError SymbolArchive × Session :=
  match session.archives.find? (·.1.same home) with
  | some (_, archive) => (.ok archive, session)
  | none =>
    match SymbolArchive.openHome files home with
    | .ok archive =>
      (.ok archive, { session with archives := session.archives ++ [(home, archive)] })
    | .error error => (.error error, session)

/-- The description of a session. -/
def describe (session : Session) : String :=
  s!"BuildSession \x7b module_names: {session.modules.size}, " ++
    s!"symbol_archives: {session.archives.length} \x7d"

end Session

/-- Sessions under their names. -/
abbrev Sessions := NameMap Session

namespace Sessions

/-- The session with a name; one that was never used is new. -/
def named (sessions : Sessions) (name : String) : Session := (sessions.get? name).getD {}

/-- The sessions after one of them was used. -/
def keep (sessions : Sessions) (name : String) (session : Session) : Sessions :=
  sessions.insert name session

end Sessions

end MultiRelease

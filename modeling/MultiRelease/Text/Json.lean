/-!
# JSON

The values that the program writes as JSON, and the indented layout in which it writes them: two
spaces for each level, one item or field a line, and nothing between the brackets of an empty list.
Control characters are escaped, other characters stand as they are.
-/

set_option autoImplicit false

namespace MultiRelease

/-- A JSON value.  The fields of an object are written in the order given. -/
inductive Json where
  | null
  | number (value : Nat)
  | text (value : String)
  | list (items : List Json)
  | object (fields : List (String × Json))
deriving Inhabited

namespace Json

/-- A text or null. -/
def ofOption : Option String → Json
  | some value => text value
  | none => null

/-- Four hexadecimal digits. -/
def fourDigits (n : Nat) : List Char :=
  let digits := Nat.toDigits 16 n
  List.replicate (4 - digits.length) '0' ++ digits

/-- One character inside quotes. -/
def escapedChar (c : Char) : List Char :=
  if c = '\x22' then ['\\', '\x22']
  else if c = '\\' then ['\\', '\\']
  else if c = '\x08' then ['\\', 'b']
  else if c = '\x0c' then ['\\', 'f']
  else if c = '\n' then ['\\', 'n']
  else if c = '\r' then ['\\', 'r']
  else if c = '\t' then ['\\', 't']
  else if c.toNat < 32 then ['\\', 'u'] ++ fourDigits c.toNat
  else [c]

/-- A text in quotes. -/
def quoted (value : String) : String :=
  String.ofList ('\x22' :: (value.toList.flatMap escapedChar ++ ['\x22']))

/-- A line end and the indentation of a level. -/
def newLine (level : Nat) : String := "\n" ++ String.ofList (List.replicate (2 * level) ' ')

mutual

/-- A value in the indented layout, inside brackets of the given level. -/
def layout (level : Nat) : Json → String
  | null => "null"
  | number value => toString value
  | text value => quoted value
  | list [] => "[]"
  | list (item :: items) =>
    "[" ++ newLine (level + 1) ++ layout (level + 1) item ++ layoutItems (level + 1) items
      ++ newLine level ++ "]"
  | object [] => "\x7b\x7d"
  | object ((name, value) :: fields) =>
    "\x7b" ++ newLine (level + 1) ++ quoted name ++ ": " ++ layout (level + 1) value
      ++ layoutFields (level + 1) fields ++ newLine level ++ "\x7d"

/-- The items after the first one. -/
def layoutItems (level : Nat) : List Json → String
  | [] => ""
  | item :: items => "," ++ newLine level ++ layout level item ++ layoutItems level items

/-- The fields after the first one. -/
def layoutFields (level : Nat) : List (String × Json) → String
  | [] => ""
  | (name, value) :: fields =>
    "," ++ newLine level ++ quoted name ++ ": " ++ layout level value ++ layoutFields level fields

end

/-- A value in the indented layout. -/
def pretty (value : Json) : String := layout 0 value

end Json

end MultiRelease

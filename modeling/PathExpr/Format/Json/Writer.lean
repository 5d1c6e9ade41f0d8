import PathExpr.Value.Display

/-!
# Writing JSON

Members and items either stand on lines of their own, indented by two spaces for
each level, or on one line.  Characters beyond ASCII are written as themselves.
A key that is no text is written as the text of its value.
-/

namespace PathExpr.Format.Json

open PathExpr.Text

/-- A character inside a quoted text. -/
def escapedChar (c : Char) : List Char :=
  if c = '"' then ['\\', '"']
  else if c = '\\' then ['\\', '\\']
  else if c = '\n' then ['\\', 'n']
  else if c = '\r' then ['\\', 'r']
  else if c = '\t' then ['\\', 't']
  else if c = '\x08' then ['\\', 'b']
  else if c = '\x0c' then ['\\', 'f']
  else if c.toNat < 32 then '\\' :: 'u' :: hexPadded 4 c.toNat
  else [c]

/-- A text between quotes. -/
def writeText (s : String) : List Char :=
  '"' :: s.toList.flatMap escapedChar ++ ['"']

/-- The spellings of numbers without a decimal text. -/
def floatWords : Number.FloatWords := ⟨"NaN", "Infinity", "-Infinity"⟩

/-- The text of a floating-point number. -/
def writeFloat (x : Float) : List Char :=
  (Number.floatText floatWords x).toList

/-- The text of a truth value. -/
def writeBool (b : Bool) : List Char :=
  if b then ['t', 'r', 'u', 'e'] else ['f', 'a', 'l', 's', 'e']

/-- The word for nothing. -/
def nullWord : List Char := ['n', 'u', 'l', 'l']

/-- The text that a key becomes. -/
def keyText : Value → Except Fault String
  | .text s => .ok s
  | .null => .ok (String.ofList nullWord)
  | .bool b => .ok (String.ofList (writeBool b))
  | .int n => Value.intText n
  | .float x => .ok (String.ofList (writeFloat x))
  | key => .error (.badJsonKey key.typeName)

/-- What stands before an item on a level. -/
def lineStart (pretty : Bool) (level : Nat) : List Char :=
  if pretty then '\n' :: List.replicate (2 * level) ' ' else []

/-- What stands between two items on a level. -/
def separation (pretty : Bool) (level : Nat) : List Char :=
  ',' :: (if pretty then lineStart pretty level else [' '])

mutual

/-- Writes a value whose items, if any, stand on the level below. -/
def writeValue (pretty : Bool) (level : Nat) : Value → Except Fault (List Char)
  | .null => .ok nullWord
  | .bool b => .ok (writeBool b)
  | .int n => return (← Value.intText n).toList
  | .float x => .ok (writeFloat x)
  | .text s => .ok (writeText s)
  | .list [] => .ok ['[', ']']
  | .list (item :: rest) => do
    let first ← writeValue pretty (level + 1) item
    let others ← writeItems pretty (level + 1) rest
    return '[' :: lineStart pretty (level + 1) ++ first ++ others ++ lineStart pretty level ++ [']']
  | .map [] => .ok ['\x7b', '\x7d']
  | .map ((key, value) :: rest) => do
    let first ← writeMember pretty (level + 1) key value
    let others ← writeMembers pretty (level + 1) rest
    return '\x7b' :: lineStart pretty (level + 1) ++ first ++ others ++ lineStart pretty level ++
      ['\x7d']
  | value => .error (.unserializable value.typeName)

/-- Writes the items after the first, each with the separation before it. -/
def writeItems (pretty : Bool) (level : Nat) : List Value → Except Fault (List Char)
  | [] => .ok []
  | item :: rest => do
    let body ← writeValue pretty level item
    let others ← writeItems pretty level rest
    return separation pretty level ++ body ++ others

/-- Writes a key, a colon and a value. -/
def writeMember (pretty : Bool) (level : Nat) (key value : Value) : Except Fault (List Char) := do
  let name ← keyText key
  let body ← writeValue pretty level value
  return writeText name ++ ':' :: ' ' :: body

/-- Writes the members after the first, each with the separation before it. -/
def writeMembers (pretty : Bool) (level : Nat) :
    List (Value × Value) → Except Fault (List Char)
  | [] => .ok []
  | (key, value) :: rest => do
    let body ← writeMember pretty level key value
    let others ← writeMembers pretty level rest
    return separation pretty level ++ body ++ others

end

/-- The JSON text of a value. -/
def write (pretty : Bool) (value : Value) : Except Fault String :=
  return String.ofList (← writeValue pretty 0 value)

end PathExpr.Format.Json

import PathExpr.Format.Yaml.Leaf
import PathExpr.Value.Display

/-!
# Writing YAML

Every item and every entry begins a line, two spaces deeper for each level; the
items of a list under a key are not indented.  What follows a dash, a question
mark or a lone colon begins on the line of that mark.  A key that cannot stand on
one line is marked with a question mark, and its value with a colon on a line of
its own.
-/

namespace PathExpr.Format.Yaml

/-- A value as a document shows it. -/
inductive Block where
  | leaf (content : Leaf)
  | seq (items : List Block)
  | map (entries : List (Block × Block))

/-- The spellings of numbers without a decimal text. -/
def floatWords : Number.FloatWords := ⟨".nan", ".inf", "-.inf"⟩

/-- A point and a zero in front of the exponent. -/
def pointBeforeExponent : List Char → List Char
  | [] => []
  | 'e' :: rest => '.' :: '0' :: 'e' :: rest
  | c :: rest => c :: pointBeforeExponent rest

/-- The text of a floating-point number; there is a point in each. -/
def writeFloat (x : Float) : List Char :=
  let cs := (Number.floatText floatWords x).toList
  if cs.contains '.' then cs else pointBeforeExponent cs

/-- A word of a given type. -/
def Block.word (tag : Tag) (text : String) : Block :=
  .leaf (.word tag text.toList)

mutual

/-- The value as a block, keys before their values. -/
def Block.ofValue : Value → Except Fault Block
  | .null => .ok (.word .null "null")
  | .bool b => .ok (.word .bool (if b then "true" else "false"))
  | .int n => return .word .int (← Value.intText n)
  | .float x => .ok (.leaf (.word .float (writeFloat x)))
  | .text s => .ok (.leaf (.text s.toList))
  | .bytes data => .ok (.leaf (.binary (Base64.encode data)))
  | .list items => return .seq (← blocksOf items)
  | .tuple items => return .seq (← blocksOf items)
  | .map entries => return .map (← entryBlocksOf entries)
  | .date d => .ok (.word .timestamp d.iso)
  | .moment m => .ok (.word .timestamp (m.iso " "))
  | value => do
    let shown ← value.display
    throw (.unrepresentable shown)

/-- The items as blocks. -/
def blocksOf : List Value → Except Fault (List Block)
  | [] => .ok []
  | item :: rest => do
    let own ← Block.ofValue item
    let others ← blocksOf rest
    return own :: others

/-- The entries as blocks. -/
def entryBlocksOf : List (Value × Value) → Except Fault (List (Block × Block))
  | [] => .ok []
  | (key, value) :: rest => do
    let keyBlock ← Block.ofValue key
    let valueBlock ← Block.ofValue value
    let others ← entryBlocksOf rest
    return (keyBlock, valueBlock) :: others

end

/-- The text of a key that can stand on one line. -/
def Block.simpleKey? : Block → Option (List Char)
  | .leaf content => if content.isSimpleKey then some content.writeKey else none
  | .seq [] => some ['[', ']']
  | .map [] => some ['\x7b', '\x7d']
  | _ => none

mutual

/-- A block on the line of the mark in front of it, inside a collection with the given indent. -/
def Block.writeBehind (indent : Nat) : Block → List Char
  | .leaf content => content.write (indent + 2) (indent + 2)
  | .seq [] => ['[', ']', '\n']
  | .seq (item :: rest) =>
    '-' :: ' ' :: item.writeBehind (indent + 2) ++ writeItems (indent + 2) rest
  | .map [] => ['\x7b', '\x7d', '\n']
  | .map (entry :: rest) => writeEntry (indent + 2) entry ++ writeEntries (indent + 2) rest

/-- Items, each on lines of its own. -/
def writeItems (indent : Nat) : List Block → List Char
  | [] => []
  | item :: rest =>
    blanks indent ++ '-' :: ' ' :: item.writeBehind indent ++ writeItems indent rest

/-- A value behind the colon of a key that ends at the given column. -/
def Block.writeUnder (indent column : Nat) : Block → List Char
  | .leaf content => ' ' :: content.write (indent + 2) (column + 2)
  | .seq [] => [' ', '[', ']', '\n']
  | .seq (item :: rest) =>
    '\n' :: blanks indent ++ '-' :: ' ' :: item.writeBehind indent ++ writeItems indent rest
  | .map [] => [' ', '\x7b', '\x7d', '\n']
  | .map (entry :: rest) =>
    '\n' :: blanks (indent + 2) ++ writeEntry (indent + 2) entry ++ writeEntries (indent + 2) rest

/-- A key and its value, the indent standing already. -/
def writeEntry (indent : Nat) : Block × Block → List Char
  | (key, value) =>
    match key.simpleKey? with
    | some name => name ++ ':' :: value.writeUnder indent (indent + name.length)
    | none =>
      '?' :: ' ' :: key.writeBehind indent ++ blanks indent ++ ':' :: ' ' ::
        value.writeBehind indent

/-- Entries, each on lines of its own. -/
def writeEntries (indent : Nat) : List (Block × Block) → List Char
  | [] => []
  | entry :: rest => blanks indent ++ writeEntry indent entry ++ writeEntries indent rest

end

/-- What follows a document that is one text without quotes, which could go on otherwise. -/
def openEnd : List Char := ['.', '.', '.', '\n']

/-- Whether the leaf is written without quotes or marks. -/
def Leaf.isPlain : Leaf → Bool
  | word _ _ => true
  | text cs => styleOf cs = .plain
  | binary _ => false

/-- A block as a whole document. -/
def Block.document : Block → List Char
  | .leaf content => content.write 2 0 ++ if content.isPlain then openEnd else []
  | .seq [] => ['[', ']', '\n']
  | .seq items => writeItems 0 items
  | .map [] => ['\x7b', '\x7d', '\n']
  | .map entries => writeEntries 0 entries

/-- The YAML text of a value. -/
def write (value : Value) : Except Fault String := do
  return String.ofList (← Block.ofValue value).document

end PathExpr.Format.Yaml

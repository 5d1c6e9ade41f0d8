import PathExpr.Document

/-!
# Raw sequences

A raw sequence is a list of texts, each a literal or an expression.  It comes
from any value that can be gone through and holds only texts, or from a document;
in a document it may lie at the bottom of mappings with one entry each, and a
lone text or nothing there stands for a sequence of one or of none.
-/

namespace PathExpr

namespace RawSequence

/-- The items of a value that can be gone through; a lone text or bytes cannot. -/
def items? (value : Value) : Option (List Value) :=
  match value.opened with
  | .list items => some items
  | .tuple items => some items
  | .set items => some items
  | .map entries => some (entries.map (·.1))
  | .byteArray data => some (data.map fun b => .int b.toNat)
  | _ => none

/-- The sequence that a value holds. -/
def ofValue (value : Value) : Except Fault (List String) :=
  match (items? value).bind Value.texts? with
  | some texts => .ok texts
  | none => .error (Value.sequenceFault value)

/-- The sequence that a list of texts is. -/
def ofList (value : Value) : Except Fault (List String) :=
  match value.opened with
  | .list items =>
    match Value.texts? items with
    | some texts => .ok texts
    | none => .error (Value.sequenceFault value)
  | _ => .error (Value.sequenceFault value)

/-- The sequence that a value without parts stands for inside a mapping. -/
def ofAtom : Atom → Except Fault (List String)
  | .text s => .ok [s]
  | .null => .ok []
  | a => .error (Value.sequenceFault a.value)

/--
The sequence that a part of a value holds, on a way through the given parts.  A
mapping with one entry that is met again leads to no end.
-/
def ofPart (parts : List (Nat × Part)) (way : List Nat) (number : Nat) :
    Except Fault (List String) :=
  match found : parts.lookup number with
  | some (.map [(_, .atom a)]) => ofAtom a
  | some (.map [(_, .part inner)]) =>
    if met : way.contains number then .error (.tooDeep .entries)
    else
      have : unmet (partNumbers parts) (number :: way) < unmet (partNumbers parts) way :=
        unmet_cons_lt (mem_partNumbers_of_lookup found) (Bool.eq_false_iff.mpr met)
      ofPart parts (number :: way) inner
  | _ => ofList (.knot parts number)
termination_by unmet (partNumbers parts) way

/-- The sequence that a document holds. -/
def ofDocument : Value → Except Fault (List String)
  | .map [(_, .text s)] => .ok [s]
  | .map [(_, .null)] => .ok []
  | .map [(_, inner)] => ofDocument inner
  | .knot parts root => ofPart parts [] root
  | value => ofList value

/-- The key of the sequence in formats that need a table around it. -/
def key : String := "path"

/-- The name of the element around the sequence. -/
def element : String := "envpath"

/-- The name of the element around other values. -/
def plainElement : String := "root"

/-- The texts as a value. -/
def toValue (raw : List String) : Value :=
  .list (raw.map .text)

/-- The sequence as a document of a format wants it. -/
def document (raw : List String) : DocumentFormat → Value
  | .toml => .map [(.text key, toValue raw)]
  | .xml => .map [(.text element, .map [(.text key, toValue raw)])]
  | _ => toValue raw

/-- Writes the sequence in the format with the given name, in whatever case. -/
def write (raw : List String) (format : Option String) (pretty : Bool) :
    Except Fault String :=
  let name := Text.lower (format.getD "")
  let value := match DocumentFormat.ofWord? name with
    | some known => document raw known
    | none => toValue raw
  Document.write value (some name) pretty plainElement

/-- Reads the sequence from a document. -/
def read (data : Value) (format : Option String) : Except Fault (List String) := do
  ofDocument (← Document.read data format)

end RawSequence

end PathExpr

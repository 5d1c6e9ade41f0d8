import PathExpr.Fault
import PathExpr.Number.Reading
import PathExpr.Value.Knot

/-!
# Values in messages

Two texts of a value: `display`, in which a text stands between quotes, for
values inside messages; and `shown`, in which a text stands for itself.  Dots
stand for a value inside itself.  Only an integer with too many digits has no
text.
-/

namespace PathExpr

namespace Value

open PathExpr.Text PathExpr.Number

/-- The decimal text of an integer within the digit limit. -/
def intText (n : Int) : Except Fault String :=
  if digitLimit < (Nat.toDigits 10 n.natAbs).length then .error (.tooManyDigits none)
  else .ok (toString n)

/-- The text of a floating-point number outside any format. -/
def plainFloat (x : Float) : String :=
  floatText plainWords x

/-- An atom as a message shows it. -/
def atomDisplay : Atom → Except Fault String
  | .null => .ok "None"
  | .bool b => .ok (if b then "True" else "False")
  | .int n => intText n
  | .float x => .ok (plainFloat x)
  | .text s => .ok (quoted s)
  | .bytes data => .ok (quotedBytes data)
  | .date d => .ok d.display
  | .moment m => .ok m.display

/-- What a message shows in place of a part inside itself. -/
def ellipsis : Part → String
  | .map _ => "\x7b...\x7d"
  | _ => "[...]"

/-- Items in the order given, as a message shows them between brackets. -/
def listDisplay (shown : List String) : String :=
  "[" ++ ", ".intercalate shown ++ "]"

/-- Items as a message shows them between braces. -/
def braceDisplay (shown : List String) : String :=
  "\x7b" ++ ", ".intercalate shown ++ "\x7d"

/-- The items of a set as a message shows them. -/
def setDisplay : List String → String
  | [] => "set()"
  | shown => braceDisplay shown

/-- What stands at a place as a message shows it, on a way through the given parts. -/
def linkDisplay (parts : List (Nat × Part)) (way : List Nat) : Link → Except Fault String
  | .atom a => atomDisplay a
  | .part number =>
    match found : parts.lookup number with
    | none => atomDisplay .null
    | some part =>
      if met : way.contains number then .ok (ellipsis part)
      else
        have : unmet (partNumbers parts) (number :: way) < unmet (partNumbers parts) way :=
          unmet_cons_lt (mem_partNumbers_of_lookup found) (Bool.eq_false_iff.mpr met)
        match part with
        | .list items => do
          return listDisplay (← items.mapM (linkDisplay parts (number :: way)))
        | .pairs entries => do
          return listDisplay (← entries.mapM fun entry => do
            let key ← linkDisplay parts (number :: way) entry.1
            let value ← linkDisplay parts (number :: way) entry.2
            return "(" ++ key ++ ", " ++ value ++ ")")
        | .map entries => do
          return braceDisplay (← entries.mapM fun entry => do
            let key ← atomDisplay entry.1
            let value ← linkDisplay parts (number :: way) entry.2
            return key ++ ": " ++ value)
        | .set items => do
          return setDisplay (← items.mapM atomDisplay)
termination_by unmet (partNumbers parts) way

mutual

/-- The value as a message shows it. -/
def display : Value → Except Fault String
  | .null => atomDisplay .null
  | .bool b => atomDisplay (.bool b)
  | .int n => atomDisplay (.int n)
  | .float x => atomDisplay (.float x)
  | .text s => atomDisplay (.text s)
  | .bytes data => atomDisplay (.bytes data)
  | .byteArray data => .ok ("bytearray(" ++ quotedBytes data ++ ")")
  | .list items => do
    let shown ← displayItems items
    return listDisplay shown
  | .tuple items => do
    match ← displayItems items with
    | [item] => return "(" ++ item ++ ",)"
    | shown => return "(" ++ ", ".intercalate shown ++ ")"
  | .map entries => do
    let shown ← displayEntries entries
    return braceDisplay shown
  | .set items => do
    let shown ← displayItems items
    return setDisplay shown
  | .date d => atomDisplay (.date d)
  | .moment m => atomDisplay (.moment m)
  | .time t => .ok t.display
  | .knot parts root => linkDisplay parts [] (.part root)

/-- `display` of every item. -/
def displayItems : List Value → Except Fault (List String)
  | [] => .ok []
  | item :: rest => do
    let shown ← display item
    let others ← displayItems rest
    return shown :: others

/-- `display` of every entry, key before value. -/
def displayEntries : List (Value × Value) → Except Fault (List String)
  | [] => .ok []
  | (key, value) :: rest => do
    let shownKey ← display key
    let shownValue ← display value
    let others ← displayEntries rest
    return (shownKey ++ ": " ++ shownValue) :: others

end

/-- The value where a text is wanted. -/
def shown : Value → Except Fault String
  | .text s => .ok s
  | .date d => .ok d.iso
  | .moment m => .ok (m.iso " ")
  | .time t => .ok t.iso
  | v => display v

/-- The fault of a value that is no list of texts. -/
def sequenceFault (value : Value) : Fault :=
  match display value with
  | .ok words => .notSequence value words
  | .error fault => fault

end Value

end PathExpr

import PathExpr.Calendar
import PathExpr.Number.Shortest

/-!
# Document values

What a document in any of the four text formats holds: scalars, sequences, and
mappings whose entries keep their order.  Keys are compared across the numeric
kinds, so that a truth value, an integer and a floating-point number of one
amount are one key.

A document may also hold a value that contains itself.  Such a value is given by
numbered parts that name each other; only lists and mappings can be among the
parts that it meets again, so that keys have no parts.
-/

namespace PathExpr

/-- A value without parts. -/
inductive Atom where
  | null
  | bool (b : Bool)
  | int (n : Int)
  | float (x : Float)
  | text (s : String)
  | bytes (data : List UInt8)
  | date (d : Date)
  | moment (m : Moment)

/-- What stands at a place in a numbered part. -/
inductive Link where
  | atom (a : Atom)
  | part (number : Nat)

/-- A numbered part. -/
inductive Part where
  | list (items : List Link)
  /-- A list of pairs. -/
  | pairs (entries : List (Link × Link))
  | map (entries : List (Atom × Link))
  | set (items : List Atom)

/-- A value of a document. -/
inductive Value where
  | null
  | bool (b : Bool)
  | int (n : Int)
  | float (x : Float)
  | text (s : String)
  | bytes (data : List UInt8)
  | byteArray (data : List UInt8)
  | list (items : List Value)
  | tuple (items : List Value)
  | map (entries : List (Value × Value))
  | set (items : List Value)
  | date (d : Date)
  | moment (m : Moment)
  | time (t : TimeOfDay)
  /-- A value that contains itself: its parts, and the number of the whole. -/
  | knot (parts : List (Nat × Part)) (root : Nat)
  deriving Inhabited

/-- The atom as a value. -/
def Atom.value : Atom → Value
  | null => .null
  | bool b => .bool b
  | int n => .int n
  | float x => .float x
  | text s => .text s
  | bytes data => .bytes data
  | date d => .date d
  | moment m => .moment m

/-- What stands at a place, as a value. -/
def Link.value (parts : List (Nat × Part)) : Link → Value
  | atom a => a.value
  | part number => .knot parts number

namespace Value

/-- The exact amount of a number: an integer, or none when there is a fraction. -/
def wholeFloat? (x : Float) : Option Int :=
  match Number.FloatKind.of x with
  | .zero _ => some 0
  | .finite negative mantissa exponent _ =>
    let unit := Nat.pow 2 (-exponent).toNat
    if mantissa % unit = 0 then
      let n : Int := mantissa / unit * Nat.pow 2 exponent.toNat
      some (if negative then -n else n)
    else none
  | _ => none

/-- The integer that a truth value, an integer or a whole number amounts to. -/
def amount? : Value → Option Int
  | .bool b => some (if b then 1 else 0)
  | .int n => some n
  | .float x => wholeFloat? x
  | _ => none

mutual

/-- Whether two values that are made apart are the same key; a NaN is the same as no other. -/
def sameKey : Value → Value → Bool
  | .null, .null => true
  | .text a, .text b => a == b
  | .bytes a, .bytes b => a == b
  | .tuple a, .tuple b => sameKeys a b
  | .date a, .date b => a == b
  | .time a, .time b => a == b
  | .moment a, .moment b =>
    a.offset.isSome == b.offset.isSome && a.universal == b.universal
  | .float a, .float b => a == b
  | a, b =>
    match a.amount?, b.amount? with
    | some m, some n => m == n
    | _, _ => false

/-- Whether two lists are the same keys, one by one. -/
def sameKeys : List Value → List Value → Bool
  | [], [] => true
  | a :: as, b :: bs => sameKey a b && sameKeys as bs
  | _, _ => false

end

/-- The value that belongs to a key. -/
def lookup? (key : Value) : List (Value × Value) → Option Value
  | [] => none
  | (k, v) :: rest => if sameKey k key then some v else lookup? key rest

/-- Binds a key: its old place is kept and a new key comes last. -/
def insert (key value : Value) : List (Value × Value) → List (Value × Value)
  | [] => [(key, value)]
  | (k, v) :: rest => if sameKey k key then (k, value) :: rest else (k, v) :: insert key value rest

/-- The entries with repeated keys merged: first place, last value. -/
def mergeEntries (entries : List (Value × Value)) : List (Value × Value) :=
  entries.foldl (fun merged entry => insert entry.1 entry.2 merged) []

/-- A part with what stands at its places. -/
def ofPart (parts : List (Nat × Part)) : Part → Value
  | .list items => .list (items.map (Link.value parts))
  | .pairs entries =>
    .list (entries.map fun entry => .tuple [entry.1.value parts, entry.2.value parts])
  | .map entries => .map (entries.map fun entry => (entry.1.value, entry.2.value parts))
  | .set items => .set (items.map Atom.value)

/-- The value with its first layer laid open, if it contains itself. -/
def opened : Value → Value
  | .knot parts root =>
    match parts.lookup root with
    | some part => ofPart parts part
    | none => .null
  | value => value

/-- What kind of value a part is, as messages call it. -/
def partName : Part → String
  | .map _ => "dict"
  | .set _ => "set"
  | _ => "list"

/-- What kind of value it is, as messages call it. -/
def typeName : Value → String
  | .null => "NoneType"
  | .bool _ => "bool"
  | .int _ => "int"
  | .float _ => "float"
  | .text _ => "str"
  | .bytes _ => "bytes"
  | .byteArray _ => "bytearray"
  | .list _ => "list"
  | .tuple _ => "tuple"
  | .map _ => "dict"
  | .set _ => "set"
  | .date _ => "date"
  | .moment _ => "datetime"
  | .time _ => "time"
  | .knot parts root => ((parts.lookup root).map partName).getD "NoneType"

/-- The texts of a list that holds only texts. -/
def texts? : List Value → Option (List String)
  | [] => some []
  | .text s :: rest => (texts? rest).map (s :: ·)
  | _ :: _ => none

mutual

/-- Whether the value, or one in it, contains itself. -/
def isEndless : Value → Bool
  | .list items => anyEndless items
  | .tuple items => anyEndless items
  | .map entries => anyEndlessEntry entries
  | .knot _ _ => true
  | _ => false

/-- `isEndless` of some item. -/
def anyEndless : List Value → Bool
  | [] => false
  | item :: rest => isEndless item || anyEndless rest

/-- `isEndless` of some entry's value. -/
def anyEndlessEntry : List (Value × Value) → Bool
  | [] => false
  | (_, value) :: rest => isEndless value || anyEndlessEntry rest

end

mutual

/-- The value with every tuple read as a list; keys stay as they are. -/
def plain : Value → Value
  | .list items => .list (plainItems items)
  | .tuple items => .list (plainItems items)
  | .map entries => .map (plainEntries entries)
  | v => v

/-- `plain` of every item. -/
def plainItems : List Value → List Value
  | [] => []
  | item :: rest => plain item :: plainItems rest

/-- `plain` of every entry's value. -/
def plainEntries : List (Value × Value) → List (Value × Value)
  | [] => []
  | (key, value) :: rest => (key, plain value) :: plainEntries rest

end

end Value

end PathExpr

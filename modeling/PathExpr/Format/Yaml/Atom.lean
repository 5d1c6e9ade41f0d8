import PathExpr.Format.Reading
import PathExpr.Format.Yaml.Base64
import PathExpr.Format.Yaml.Tag
import PathExpr.Text.Case
import PathExpr.Value

/-!
# Atoms of YAML

The value that a text has by the type that is given to it.  A text that does not
follow the notation of its type is a fault, and no malformed document.
-/

namespace PathExpr.Format.Yaml

open PathExpr.Number

/-- An integer in a given base. -/
def readBase (base : Nat) (cs : List Char) : Reading Int :=
  match readInteger base (String.ofList cs) with
  | .ok n => .ok n
  | .error (.tooLong digits) => failWith (.tooManyDigits (some digits))
  | .error .malformed => failWith (.notInteger base (String.ofList cs))

/-- A floating-point number outside the special words. -/
def readPlainFloat (cs : List Char) : Reading Float :=
  match readFloat (String.ofList cs) with
  | some x => .ok x
  | none => failWith (.notFloat (String.ofList cs))

/-- The parts between colons. -/
def sexagesimalParts (cs : List Char) : List (List Char) :=
  Text.splitChars [':'] 0 cs

/-- The integer that the text of an integer scalar writes. -/
def intOf (text : String) : Reading Int := do
  let cs := text.toList.filter (· != '_')
  if cs.isEmpty then failWith .emptyNumber
  else
    let (negative, body) := takeSign cs
    let sign : Int := if negative then -1 else 1
    match body with
    | [] => failWith .emptyNumber
    | ['0'] => return 0
    | '0' :: 'b' :: rest => return sign * (← readBase 2 rest)
    | '0' :: 'x' :: rest => return sign * (← readBase 16 rest)
    | '0' :: rest => return sign * (← readBase 8 ('0' :: rest))
    | body =>
      if body.contains ':' then
        let parts ← (sexagesimalParts body).mapM (readBase 10)
        return sign * parts.foldl (fun total part => total * 60 + part) 0
      else return sign * (← readBase 10 body)

/-- An integer as a floating-point number. -/
def floatOfNat (n : Nat) : Reading Float :=
  if Nat.pow 2 1024 ≤ n then failWith .beyondFloat else .ok (nearestFloat n 0)

/-- Adds parts, the last part first, with the powers of sixty from `unit` on. -/
def sexagesimalSum : (unit : Nat) → (total : Float) → List Float → Reading Float
  | _, total, [] => return total
  | unit, total, part :: rest => do
    let amount ← floatOfNat unit
    sexagesimalSum (unit * 60) (total + part * amount) rest

/-- The sign and the magnitude that the text of a floating-point scalar writes. -/
def floatParts (text : String) : Bool × List Char :=
  takeSign (Text.lower (String.ofList (text.toList.filter (· != '_')))).toList

/-- Whether the text is the word for no number. -/
def isNoNumber (text : String) : Bool :=
  (floatParts text).2 == ".nan".toList

/-- The number that the text of a floating-point scalar writes. -/
def floatOf (text : String) : Reading Float := do
  if text.toList.all (· == '_') then failWith .emptyNumber
  else
    let (negative, body) := floatParts text
    let apply := fun (x : Float) => if negative then -1.0 * x else 1.0 * x
    if body = ".inf".toList then return apply (1.0 / 0.0)
    else if isNoNumber text then return 0.0 / 0.0
    else if body.contains ':' then
      let parts ← (sexagesimalParts body).mapM readPlainFloat
      return apply (← sexagesimalSum 1 0.0 parts.reverse)
    else return apply (← readPlainFloat body)

/-- The truth value of a word. -/
def boolOf (text : String) : Reading Bool :=
  let word := Text.lower text
  match truthWords.lookup word with
  | some b => .ok b
  | none => failWith (.notSwitchWord word)

/-- The microseconds that the digits behind a point stand for. -/
def microsOf (fraction : List Char) : Nat :=
  let six := fraction.take 6
  ofDigits 10 six * Nat.pow 10 (6 - six.length)

/-- The date or the moment that a text writes; a line feed behind the text is passed over. -/
def stampOf (text : String) : Reading Atom := do
  let checked : {α : Type} → Except CalendarFlaw α → Reading α := fun
    | .ok value => .ok value
    | .error flaw => failWith (.calendar flaw)
  match Stamp.read? (dropFinalBreak text.toList) with
  | none => failWith .notTimestamp
  | some stamp =>
    match stamp.time with
    | none => return .date (← checked (Date.make stamp.year stamp.month stamp.day))
    | some (hour, minute, second) => do
      match stamp.offset with
      | some offset =>
        if 86400 ≤ offset.natAbs then failWith (.offsetRange offset)
      | none => pure ()
      let date ← checked (Date.make stamp.year stamp.month stamp.day)
      let time ← checked (TimeOfDay.make hour minute second (microsOf stamp.fraction))
      return .moment ⟨date, time, stamp.offset⟩

/-- Bytes in base 64; the text must be ASCII. -/
def binaryOf (text : String) : Reading Atom :=
  if text.toList.all fun c => c.toNat < 128 then
    (require (Base64.decode text.toList)).map .bytes
  else malformed

/-- The atom that a text is by its type; there are none of other types. -/
def atomOf (tag : Tag) (text : String) : Reading Atom := do
  match tag with
  | .null => return .null
  | .bool => return .bool (← boolOf text)
  | .int => return .int (← intOf text)
  | .float => return .float (← floatOf text)
  | .binary => binaryOf text
  | .timestamp => stampOf text
  | .str => return .text text
  | _ => malformed

end PathExpr.Format.Yaml

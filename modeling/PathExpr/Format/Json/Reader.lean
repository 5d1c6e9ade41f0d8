import PathExpr.Format.Reading
import PathExpr.Number.Reading
import PathExpr.Value

/-!
# Reading JSON

One value with blanks around it.  Besides the numbers of the format, the words
for infinity and for no number are read.  A key that occurs again keeps its
first place and takes its last value.
-/

namespace PathExpr.Format.Json

open PathExpr.Number

/-- Whether the character may stand between any two parts of a document. -/
def isGap (c : Char) : Bool :=
  c == ' ' || c == '\t' || c == '\n' || c == '\r'

/-- What follows the gap at the start. -/
def skipGap (cs : List Char) : List Char :=
  cs.dropWhile isGap

/-- The number that four hexadecimal digits write. -/
def readHex (a b c d : Char) : Option Nat :=
  if [a, b, c, d].all (isDigitIn 16) then some (ofDigits 16 [a, b, c, d]) else none

/-- The character that a letter behind a backslash stands for. -/
def simpleEscape? : Char → Option Char
  | '"' => some '"'
  | '\\' => some '\\'
  | '/' => some '/'
  | 'b' => some '\x08'
  | 'f' => some '\x0c'
  | 'n' => some '\n'
  | 'r' => some '\r'
  | 't' => some '\t'
  | _ => none

/-- The code units of a text up to its closing quote, and what follows that. -/
def readUnits : List Char → Option (List Nat × List Char)
  | [] => none
  | '"' :: rest => some ([], rest)
  | '\\' :: 'u' :: a :: b :: c :: d :: rest => do
    let unit ← readHex a b c d
    let (units, after) ← readUnits rest
    some (unit :: units, after)
  | '\\' :: e :: rest => do
    let c ← simpleEscape? e
    let (units, after) ← readUnits rest
    some (c.toNat :: units, after)
  | c :: rest =>
    if c = '\\' || c.toNat < 32 then none
    else do
      let (units, after) ← readUnits rest
      some (c.toNat :: units, after)

/-- Whether the code unit is the first half of a pair. -/
def isHighUnit (unit : Nat) : Bool := 0xd800 ≤ unit && unit ≤ 0xdbff

/-- Whether the code unit is the second half of a pair. -/
def isLowUnit (unit : Nat) : Bool := 0xdc00 ≤ unit && unit ≤ 0xdfff

/-- A code unit that stands alone; half of a pair becomes U+FFFD. -/
def loneUnit (unit : Nat) : Char :=
  if isHighUnit unit || isLowUnit unit then '\uFFFD' else Char.ofNat unit

/-- The characters of code units, two halves making one character. -/
def joinUnits : List Nat → List Char
  | [] => []
  | [unit] => [loneUnit unit]
  | high :: low :: rest =>
    if isHighUnit high && isLowUnit low then
      Char.ofNat (0x10000 + (high - 0xd800) * 1024 + (low - 0xdc00)) :: joinUnits rest
    else loneUnit high :: joinUnits (low :: rest)

/-- A text behind its opening quote. -/
def readText (cs : List Char) : Option (String × List Char) :=
  (readUnits cs).map fun parts => (String.ofList (joinUnits parts.1), parts.2)

/-- The digits of a number before any point: a lone zero, or digits that start with none. -/
def takeWhole : List Char → Option (List Char × List Char)
  | '0' :: rest => some (['0'], rest)
  | c :: rest =>
    if isDigit c then some (c :: rest.takeWhile isDigit, rest.dropWhile isDigit) else none
  | [] => none

/-- A point with digits behind it. -/
def takeFraction : List Char → Option (List Char × List Char)
  | '.' :: rest =>
    let digits := rest.takeWhile isDigit
    if digits.isEmpty then none else some (digits, rest.dropWhile isDigit)
  | _ => none

/-- An exponent mark with digits behind it. -/
def takeExponent : List Char → Option (Int × List Char)
  | mark :: rest =>
    if mark = 'e' || mark = 'E' then
      let (negative, body) := takeSign rest
      let digits := body.takeWhile isDigit
      if digits.isEmpty then none
      else some (signed negative (ofDigits 10 digits), body.dropWhile isDigit)
    else none
  | [] => none

/-- An integer, unless it has too many digits. -/
def wholeNumber (negative : Bool) (digits : List Char) : Reading Value :=
  if digitLimit < digits.length then failWith (.tooManyDigits (some digits.length))
  else .ok (.int (signed negative (ofDigits 10 digits)))

/-- Negates a floating-point number, or leaves it. -/
def signedFloat (negative : Bool) (x : Float) : Value :=
  .float (if negative then -x else x)

/-- A number behind its sign. -/
def readMagnitude (negative : Bool) (cs : List Char) : Reading (Value × List Char) := do
  let (whole, rest) ← require (takeWhole cs)
  let (fraction, rest) := (takeFraction rest).getD ([], rest)
  match takeExponent rest with
  | some (exponent, rest) =>
    let x := nearestFloat (ofDigits 10 (whole ++ fraction)) (exponent - fraction.length)
    return (signedFloat negative x, rest)
  | none =>
    if fraction.isEmpty then return (← wholeNumber negative whole, rest)
    else
      let x := nearestFloat (ofDigits 10 (whole ++ fraction)) (-(fraction.length : Int))
      return (signedFloat negative x, rest)

/-- A value that is neither a text nor a sequence nor a mapping. -/
def readScalar : List Char → Reading (Value × List Char)
  | 'n' :: 'u' :: 'l' :: 'l' :: rest => .ok (.null, rest)
  | 't' :: 'r' :: 'u' :: 'e' :: rest => .ok (.bool true, rest)
  | 'f' :: 'a' :: 'l' :: 's' :: 'e' :: rest => .ok (.bool false, rest)
  | 'N' :: 'a' :: 'N' :: rest => .ok (.float (0.0 / 0.0), rest)
  | 'I' :: 'n' :: 'f' :: 'i' :: 'n' :: 'i' :: 't' :: 'y' :: rest => .ok (.float (1.0 / 0.0), rest)
  | '-' :: 'I' :: 'n' :: 'f' :: 'i' :: 'n' :: 'i' :: 't' :: 'y' :: rest =>
    .ok (.float (-1.0 / 0.0), rest)
  | '-' :: rest => readMagnitude true rest
  | cs => readMagnitude false cs

mutual

/-- Reads a value; the first argument bounds the depth and the length. -/
def readValue : Nat → List Char → Reading (Value × List Char)
  | 0, _ => malformed
  | fuel + 1, cs =>
    match cs with
    | '"' :: rest => do
      let (s, rest) ← require (readText rest)
      return (.text s, rest)
    | '[' :: rest =>
      match skipGap rest with
      | ']' :: rest => .ok (.list [], rest)
      | rest => do
        let (items, rest) ← readItems fuel rest
        return (.list items, rest)
    | '\x7b' :: rest =>
      match skipGap rest with
      | '\x7d' :: rest => .ok (.map [], rest)
      | rest => do
        let (entries, rest) ← readMembers fuel rest
        return (.map (Value.mergeEntries entries), rest)
    | cs => readScalar cs

/-- Reads one item and those after it, up to the end of the sequence. -/
def readItems : Nat → List Char → Reading (List Value × List Char)
  | 0, _ => malformed
  | fuel + 1, cs => do
    let (item, rest) ← readValue fuel cs
    match skipGap rest with
    | ']' :: rest => return ([item], rest)
    | ',' :: rest => do
      let (items, rest) ← readItems fuel (skipGap rest)
      return (item :: items, rest)
    | _ => malformed

/-- Reads one member and those after it, up to the end of the mapping. -/
def readMembers : Nat → List Char → Reading (List (Value × Value) × List Char)
  | 0, _ => malformed
  | fuel + 1, '"' :: cs => do
    let (key, rest) ← require (readText cs)
    match skipGap rest with
    | ':' :: rest => do
      let (value, rest) ← readValue fuel (skipGap rest)
      match skipGap rest with
      | '\x7d' :: rest => return ([(.text key, value)], rest)
      | ',' :: rest => do
        let (entries, rest) ← readMembers fuel (skipGap rest)
        return ((.text key, value) :: entries, rest)
      | _ => malformed
    | _ => malformed
  | _ + 1, _ => malformed

end

/-- The value of a JSON document. -/
def read (s : String) : Reading Value := do
  let cs := s.toList
  let (value, rest) ← readValue (2 * cs.length + 2) (skipGap cs)
  if (skipGap rest).isEmpty then return value else malformed

end PathExpr.Format.Json

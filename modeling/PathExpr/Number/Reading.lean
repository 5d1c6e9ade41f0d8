import PathExpr.Text.Blank
import PathExpr.Text.Digit

/-!
# Reading numbers

Integers in a given base and floating-point numbers, as free-standing texts
without underscores.  Blanks around them are ignored, and the digits may be those
of any script.  An integer in base ten has a largest number of digits.
-/

namespace PathExpr.Number

open PathExpr.Text

/-- The largest number of decimal digits that is converted. -/
def digitLimit : Nat := 4300

/-- The value of a digit in bases up to thirty-six. -/
def digitValue? (c : Char) : Option Nat :=
  if '0' ≤ c && c ≤ '9' then some (c.toNat - 48)
  else if 'a' ≤ c && c ≤ 'z' then some (c.toNat - 87)
  else if 'A' ≤ c && c ≤ 'Z' then some (c.toNat - 55)
  else none

/-- Whether the character is a decimal digit of ASCII. -/
def isDigit (c : Char) : Bool :=
  '0' ≤ c && c ≤ '9'

/-- Whether the character is a digit in the base. -/
def isDigitIn (base : Nat) (c : Char) : Bool :=
  match digitValue? c with
  | some value => value < base
  | none => false

/-- The number that digits write in a base; other characters count as zero. -/
def ofDigits (base : Nat) (cs : List Char) : Nat :=
  cs.foldl (fun n c => n * base + (digitValue? c).getD 0) 0

/-- A leading sign, and what follows it. -/
def takeSign : List Char → Bool × List Char
  | '-' :: rest => (true, rest)
  | '+' :: rest => (false, rest)
  | cs => (false, cs)

/-- Why a text is no integer. -/
inductive IntegerFlaw where
  | malformed
  /-- So many digits are too many. -/
  | tooLong (digits : Nat)
  deriving Repr, DecidableEq

/-- A sign applied to a magnitude. -/
def signed (negative : Bool) (n : Nat) : Int :=
  if negative then -(n : Int) else n

/-- Whether the character may stand around a number; the information separators may not. -/
def isNumberBlank (c : Char) : Bool :=
  isBlank c && !(28 ≤ c.toNat && c.toNat ≤ 31)

/-- The decimal digit of ASCII for one of any script; another character stays. -/
def plainDigit (c : Char) : Char :=
  match digitZeros.find? fun first => first ≤ c.toNat && c.toNat ≤ first + 9 with
  | some first => Char.ofNat ('0'.toNat + (c.toNat - first))
  | none => c

/-- The characters of a number without the blanks around them, its digits in ASCII. -/
def numberChars (s : String) : List Char :=
  (dropEndWhile isNumberBlank (s.toList.dropWhile isNumberBlank)).map plainDigit

/-- Removes the mark that names the base. -/
def dropBaseMark (base : Nat) : List Char → List Char
  | '0' :: mark :: rest =>
    let marks := match base with
      | 16 => ['x', 'X']
      | 8 => ['o', 'O']
      | 2 => ['b', 'B']
      | _ => []
    if marks.contains mark then rest else '0' :: mark :: rest
  | cs => cs

/-- Reads an integer written in the given base; its digits are counted before what follows them. -/
def readInteger (base : Nat) (s : String) : Except IntegerFlaw Int :=
  let (negative, body) := takeSign (numberChars s)
  let body := dropBaseMark base body
  let digits := body.takeWhile (isDigitIn base)
  if base == 10 && digitLimit < digits.length then .error (.tooLong digits.length)
  else if digits.isEmpty || digits.length < body.length then .error .malformed
  else .ok (signed negative (ofDigits base digits))

/-- The nearest number to `mantissa * 10 ^ exponent`. -/
def nearestFloat (mantissa : Nat) (exponent : Int) : Float :=
  if mantissa = 0 then 0.0
  else
    let size := exponent + (Nat.toDigits 10 mantissa).length
    if 400 < size then 1.0 / 0.0
    else if size < -400 then 0.0
    else Float.ofScientific mantissa (exponent < 0) exponent.natAbs

/-- An exponent part: nothing, or a mark, an optional sign and digits. -/
def readExponent : List Char → Option Int
  | [] => some 0
  | mark :: rest =>
    let (negative, digits) := takeSign rest
    if (mark == 'e' || mark == 'E') && !digits.isEmpty && digits.all isDigit then
      some (signed negative (ofDigits 10 digits))
    else none

/-- Reads digits with an optional point and an optional exponent. -/
def readDecimal (cs : List Char) : Option Float :=
  let whole := cs.takeWhile isDigit
  let (fraction, rest) := match cs.dropWhile isDigit with
    | '.' :: rest => (rest.takeWhile isDigit, rest.dropWhile isDigit)
    | rest => ([], rest)
  if whole.isEmpty && fraction.isEmpty then none
  else (readExponent rest).map fun exponent =>
    nearestFloat (ofDigits 10 (whole ++ fraction)) (exponent - fraction.length)

/-- Reads a floating-point number, an infinity or a NaN. -/
def readFloat (s : String) : Option Float :=
  let (negative, body) := takeSign (numberChars s)
  let magnitude :=
    let word := String.ofList (body.map Char.toLower)
    if word = "inf" || word = "infinity" then some (1.0 / 0.0)
    else if word = "nan" then some (0.0 / 0.0)
    else readDecimal body
  magnitude.map fun x => if negative then -x else x

end PathExpr.Number

/-!
# Shortest decimal text of a floating-point number

A finite number is an integer times a power of two.  Its decimal text has the
fewest digits that still read back as the number, and among the texts of that
length the one nearest to it.  The search looks at the two grid points around
the number for one digit, two digits and so on, in exact arithmetic.
-/

namespace PathExpr.Number

/-- A positive decimal number `digits * 10 ^ exponent`. -/
structure Scaled where
  digits : Nat
  exponent : Int
  deriving Repr, DecidableEq

/-- What a floating-point number is. -/
inductive FloatKind where
  | notANumber
  | infinite (negative : Bool)
  | zero (negative : Bool)
  /-- The number `mantissa * 2 ^ exponent` up to sign; `lowest` marks a mantissa
  whose lower neighbour is only half as far away as its upper one. -/
  | finite (negative : Bool) (mantissa : Nat) (exponent : Int) (lowest : Bool)
  deriving Repr, DecidableEq

/-- Reads the sixty-four bits of a number. -/
def FloatKind.ofBits (bits : Nat) : FloatKind :=
  let negative := bits / Nat.pow 2 63 == 1
  let biased : Nat := bits / Nat.pow 2 52 % Nat.pow 2 11
  let fraction : Nat := bits % Nat.pow 2 52
  if biased = 2047 then
    if fraction = 0 then .infinite negative else .notANumber
  else if biased = 0 then
    if fraction = 0 then .zero negative else .finite negative fraction (-1074) false
  else .finite negative (Nat.pow 2 52 + fraction) (biased - 1075) (fraction == 0 && biased > 1)

/-- What the number is. -/
def FloatKind.of (x : Float) : FloatKind :=
  .ofBits x.toBits.toNat

/-- The numbers that round to a given one, over a common denominator. -/
structure Rounding where
  low : Nat
  value : Nat
  high : Nat
  denominator : Nat
  /-- Whether the two ends round to the number too. -/
  closed : Bool

/-- The interval of `mantissa * 2 ^ exponent`. -/
def Rounding.of (mantissa : Nat) (exponent : Int) (lowest : Bool) : Rounding :=
  let scale := Nat.pow 2 (exponent - 2).toNat
  { low := (4 * mantissa - (if lowest then 1 else 2)) * scale
    value := 4 * mantissa * scale
    high := (4 * mantissa + 2) * scale
    denominator := Nat.pow 2 (2 - exponent).toNat
    closed := mantissa % 2 == 0 }

/-- Whether `digits * 10 ^ exponent` rounds to the number. -/
def Rounding.holds (interval : Rounding) (point : Scaled) : Bool :=
  let scaled := point.digits * Nat.pow 10 point.exponent.toNat * interval.denominator
  let unit := Nat.pow 10 (-point.exponent).toNat
  if interval.closed then interval.low * unit ≤ scaled && scaled ≤ interval.high * unit
  else interval.low * unit < scaled && scaled < interval.high * unit

/-- The grid point at or below the number, with twice the remainder against the grid. -/
def Rounding.below (interval : Rounding) (exponent : Int) : Nat × Ordering :=
  let numerator := interval.value * Nat.pow 10 (-exponent).toNat
  let denominator := interval.denominator * Nat.pow 10 exponent.toNat
  (numerator / denominator, compare (2 * (numerator % denominator)) denominator)

/-- The point of the grid of tens to `exponent` that reads back, nearest first. -/
def Rounding.onGrid? (interval : Rounding) (exponent : Int) : Option Scaled :=
  let (floor, side) := interval.below exponent
  let down : Scaled := ⟨floor, exponent⟩
  let up : Scaled := ⟨floor + 1, exponent⟩
  let downFirst := side == .lt || (side == .eq && floor % 2 == 0)
  let (near, far) := if downFirst then (down, up) else (up, down)
  if interval.holds near then some near
  else if interval.holds far then some far
  else none

/-- The exponent of the leading decimal digit of the number. -/
def Rounding.leading (interval : Rounding) : Int :=
  ((Nat.toDigits 10 (interval.value * Nat.pow 10 400 / interval.denominator)).length : Int) - 401

/-- The first grid with a point that reads back, from `digits` digits on. -/
def Rounding.search (interval : Rounding) (leading : Int) : Nat → Nat → Scaled
  | 0, digits => ⟨(interval.below (leading - digits + 1)).1, leading - digits + 1⟩
  | fuel + 1, digits =>
    match interval.onGrid? (leading - digits + 1) with
    | some point => point
    | none => interval.search leading fuel (digits + 1)

/-- The shortest decimal that reads back as `mantissa * 2 ^ exponent`. -/
def shortest (mantissa : Nat) (exponent : Int) (lowest : Bool) : Scaled :=
  let interval := Rounding.of mantissa exponent lowest
  interval.search interval.leading 17 1

/-- A list without its final zeros. -/
def dropZeros (digits : List Char) : List Char :=
  (digits.reverse.dropWhile (· == '0')).reverse

/-- An exponent with its sign and at least two digits. -/
def exponentChars (exponent : Int) : List Char :=
  let digits := Nat.toDigits 10 exponent.natAbs
  let padded := if digits.length < 2 then '0' :: digits else digits
  (if exponent < 0 then '-' else '+') :: padded

/--
The text of a positive decimal: positional, with a fractional part even when it
is zero, while the leading digit stands between 10⁻⁴ and 10¹⁵; with an exponent
beyond.
-/
def Scaled.chars (decimal : Scaled) : List Char :=
  let all := Nat.toDigits 10 decimal.digits
  let leading := decimal.exponent + all.length - 1
  let digits := dropZeros all
  if leading < -4 || 16 ≤ leading then
    let body := match digits with
      | [] => []
      | [c] => [c]
      | c :: rest => c :: '.' :: rest
    body ++ 'e' :: exponentChars leading
  else if leading < 0 then
    '0' :: '.' :: List.replicate (-leading - 1).toNat '0' ++ digits
  else
    let whole := leading.toNat + 1
    let padded := digits ++ List.replicate (whole - digits.length) '0'
    let fraction := padded.drop whole
    padded.take whole ++ '.' :: (if fraction.isEmpty then ['0'] else fraction)

/-- How the numbers without a decimal text are spelled. -/
structure FloatWords where
  notANumber : String
  infinity : String
  minusInfinity : String

/-- The text of a number. -/
def floatText (words : FloatWords) (x : Float) : String :=
  match FloatKind.of x with
  | .notANumber => words.notANumber
  | .infinite negative => if negative then words.minusInfinity else words.infinity
  | .zero negative => if negative then "-0.0" else "0.0"
  | .finite negative mantissa exponent lowest =>
    let body := (shortest mantissa exponent lowest).chars
    String.ofList (if negative then '-' :: body else body)

/-- The spellings used where a text format has none of its own. -/
def plainWords : FloatWords := ⟨"nan", "inf", "-inf"⟩

end PathExpr.Number

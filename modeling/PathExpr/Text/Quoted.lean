import PathExpr.Text.Printable

/-!
# Quoted texts in messages

How a message shows a text or bytes: between single quotes, or between double
quotes when only single quotes occur inside, with a backslash before the
delimiter and the backslash itself, and escapes for what cannot be printed.
-/

namespace PathExpr.Text

/-- The lower-case hexadecimal digit of a number below sixteen. -/
def hexDigit (n : Nat) : Char :=
  if n < 10 then Char.ofNat (48 + n) else Char.ofNat (87 + n)

/-- The last `width` hexadecimal digits of a number. -/
def hexPadded : Nat → Nat → List Char
  | 0, _ => []
  | width + 1, n => hexPadded width (n / 16) ++ [hexDigit (n % 16)]

/-- The shortest of the three numbered escapes that holds the character. -/
def numberedEscape (c : Char) : List Char :=
  let code := c.toNat
  if code < 0x100 then '\\' :: 'x' :: hexPadded 2 code
  else if code < 0x10000 then '\\' :: 'u' :: hexPadded 4 code
  else '\\' :: 'U' :: hexPadded 8 code

/-- Double quotes only where single quotes, and no double quotes, occur inside. -/
def quoteMarkFor (cs : List Char) : Char :=
  if cs.contains '\'' && !cs.contains '"' then '"' else '\''

/-- One character of a text between the given quote marks. -/
def quotedChar (mark c : Char) : List Char :=
  if c = mark || c = '\\' then ['\\', c]
  else if c = '\n' then ['\\', 'n']
  else if c = '\r' then ['\\', 'r']
  else if c = '\t' then ['\\', 't']
  else if isPrintable c then [c]
  else numberedEscape c

/-- The text as a message shows it. -/
def quoted (s : String) : String :=
  let cs := s.toList
  let mark := quoteMarkFor cs
  String.ofList (mark :: cs.flatMap (quotedChar mark) ++ [mark])

/-- One byte of a byte text between the given quote marks. -/
def quotedByte (mark : Char) (b : UInt8) : List Char :=
  let c := Char.ofNat b.toNat
  if c = mark || c = '\\' then ['\\', c]
  else if c = '\n' then ['\\', 'n']
  else if c = '\r' then ['\\', 'r']
  else if c = '\t' then ['\\', 't']
  else if 32 ≤ b && b < 127 then [c]
  else '\\' :: 'x' :: hexPadded 2 b.toNat

/-- Bytes as a message shows them. -/
def quotedBytes (bytes : List UInt8) : String :=
  let mark := quoteMarkFor (bytes.map fun b => Char.ofNat b.toNat)
  String.ofList ('b' :: mark :: bytes.flatMap (quotedByte mark) ++ [mark])

end PathExpr.Text

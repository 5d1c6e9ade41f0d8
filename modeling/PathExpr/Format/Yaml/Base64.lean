/-!
# Bytes in base 64

Four characters of an alphabet of sixty-four carry three bytes.  In reading,
characters outside the alphabet are passed over, and the padding that completes
a group ends the text.
-/

namespace PathExpr.Format.Yaml.Base64

/-- The alphabet, in the order of its digits. -/
def alphabet : List Char :=
  "ABCDEFGHIJKLMNOPQRSTUVWXYZabcdefghijklmnopqrstuvwxyz0123456789+/".toList

/-- The character of a digit. -/
def digitChar (digit : Nat) : Char :=
  alphabet.getD digit 'A'

/-- The digit of a character. -/
def digit? (c : Char) : Option Nat :=
  alphabet.idxOf? c

/-- The characters of bytes, three at a time. -/
def encode : List UInt8 → List Char
  | [] => []
  | [a] =>
    let n := a.toNat
    [digitChar (n / 4), digitChar (n % 4 * 16), '=', '=']
  | [a, b] =>
    let n := a.toNat * 256 + b.toNat
    [digitChar (n / 1024), digitChar (n / 16 % 64), digitChar (n % 16 * 4), '=']
  | a :: b :: c :: rest =>
    let n := a.toNat * 65536 + b.toNat * 256 + c.toNat
    digitChar (n / 262144) :: digitChar (n / 4096 % 64) :: digitChar (n / 64 % 64) ::
      digitChar (n % 64) :: encode rest

/--
The bytes of characters.  `held` are the digits of the group so far, and `pads`
the padding characters met in it.
-/
def decodeFrom (held : List Nat) (pads : Nat) : List Char → Option (List UInt8)
  | [] => if held.isEmpty then some [] else none
  | c :: rest =>
    if c = '=' then
      if 2 ≤ held.length && 4 ≤ held.length + pads + 1 then some []
      else decodeFrom held (if 2 ≤ held.length then pads + 1 else pads) rest
    else match digit? c with
    | none => decodeFrom held pads rest
    | some digit =>
      match held with
      | [] => decodeFrom [digit] 0 rest
      | [a] =>
        (decodeFrom [a, digit] 0 rest).map ((a * 4 + digit / 16).toUInt8 :: ·)
      | [a, b] =>
        (decodeFrom [a, b, digit] 0 rest).map ((b % 16 * 16 + digit / 4).toUInt8 :: ·)
      | _ :: _ :: c :: _ =>
        (decodeFrom [] 0 rest).map ((c % 4 * 64 + digit).toUInt8 :: ·)

/-- The bytes of characters, unless a group at the end is incomplete. -/
def decode (cs : List Char) : Option (List UInt8) :=
  decodeFrom [] 0 cs

end PathExpr.Format.Yaml.Base64

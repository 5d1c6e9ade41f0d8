/-!
# Reading UTF-8

A byte sequence is read character by character.  Where no character begins, the
longest part that could still have become one is a single fault; the reader
either reports it or writes the replacement character in its place.
-/

namespace PathExpr.Text

/-- Why bytes are no UTF-8. -/
inductive Utf8Flaw where
  /-- The byte begins no character. -/
  | start
  /-- A byte that must continue a character does not. -/
  | continuation
  /-- The bytes end inside a character. -/
  | truncated
  deriving Repr, DecidableEq

/-- What stands at the head of a byte list. -/
inductive Utf8Head where
  /-- A character of so many bytes. -/
  | char (c : Char) (width : Nat)
  /-- A part of so many bytes that is no character. -/
  | flaw (width : Nat) (kind : Utf8Flaw)
  deriving Repr, DecidableEq

/-- Whether the byte continues a character. -/
def isUtf8Tail (b : UInt8) : Bool :=
  0x80 ≤ b && b ≤ 0xbf

/-- The six bits that a continuing byte carries. -/
def utf8Bits (b : UInt8) : Nat :=
  b.toNat % 64

/-- The bytes that may follow the first byte of a character of three or four bytes. -/
def isUtf8Second (first second : UInt8) : Bool :=
  isUtf8Tail second &&
  (first != 0xe0 || 0xa0 ≤ second) && (first != 0xed || second ≤ 0x9f) &&
  (first != 0xf0 || 0x90 ≤ second) && (first != 0xf4 || second ≤ 0x8f)

/-- What begins with the byte `a` when `rest` follows it. -/
def utf8Head (a : UInt8) (rest : List UInt8) : Utf8Head :=
  if a < 0x80 then .char (Char.ofNat a.toNat) 1
  else if a < 0xc2 || 0xf4 < a then .flaw 1 .start
  else match rest with
  | [] => .flaw 1 .truncated
  | b :: rest =>
    if a < 0xe0 then
      if isUtf8Tail b then .char (Char.ofNat ((a.toNat % 32) * 64 + utf8Bits b)) 2
      else .flaw 1 .continuation
    else if !isUtf8Second a b then .flaw 1 .continuation
    else match rest with
    | [] => .flaw 2 .truncated
    | c :: rest =>
      if !isUtf8Tail c then .flaw 2 .continuation
      else if a < 0xf0 then
        .char (Char.ofNat ((a.toNat % 16) * 4096 + utf8Bits b * 64 + utf8Bits c)) 3
      else match rest with
      | [] => .flaw 3 .truncated
      | d :: _ =>
        if isUtf8Tail d then
          .char (Char.ofNat ((a.toNat % 8) * 262144 + utf8Bits b * 4096 + utf8Bits c * 64 +
            utf8Bits d)) 4
        else .flaw 3 .continuation

/--
The characters of the bytes, each fault written as U+FFFD.  The first argument
counts the bytes of the last item that are still to be passed over.
-/
def decodeLenientFrom : Nat → List UInt8 → List Char
  | _, [] => []
  | skip + 1, _ :: rest => decodeLenientFrom skip rest
  | 0, a :: rest =>
    match utf8Head a rest with
    | .char c width => c :: decodeLenientFrom (width - 1) rest
    | .flaw width _ => '\uFFFD' :: decodeLenientFrom (width - 1) rest

/-- The text of the bytes, with U+FFFD for every part that is no character. -/
def decodeLenient (bytes : List UInt8) : String :=
  String.ofList (decodeLenientFrom 0 bytes)

/-- A part that is no character: its bytes, where it begins, and why. -/
structure Utf8Fault where
  position : Nat
  bytes : List UInt8
  kind : Utf8Flaw
  deriving Repr, DecidableEq

/-- The characters of the bytes from a position on, or the first fault. -/
def decodeStrictFrom (position : Nat) : Nat → List UInt8 → Except Utf8Fault (List Char)
  | _, [] => .ok []
  | skip + 1, _ :: rest => decodeStrictFrom (position + 1) skip rest
  | 0, a :: rest =>
    match utf8Head a rest with
    | .char c width => do
      let tail ← decodeStrictFrom (position + 1) (width - 1) rest
      return c :: tail
    | .flaw width kind => .error ⟨position, (a :: rest).take width, kind⟩

/-- The text of the bytes, or the first part that is no character. -/
def decodeStrict (bytes : List UInt8) : Except Utf8Fault String :=
  (decodeStrictFrom 0 0 bytes).map String.ofList

/-- The bytes of a text. -/
def encodeUtf8 (s : String) : List UInt8 :=
  s.toUTF8.toList

end PathExpr.Text

import PathExpr.Text.Utf8

/-!
# Text to bytes and back

The bytes of a character are read as this character, whatever bytes follow, and
so the bytes of a text are read as the text.
-/

namespace PathExpr.Text

/-! ## The bytes of a text -/

theorem toList_loop_eq (bytes : ByteArray) (start : Nat) (taken : List UInt8) :
    ByteArray.toList.loop bytes start taken = taken.reverse ++ bytes.data.toList.drop start := by
  fun_induction ByteArray.toList.loop bytes start taken with
  | case1 start taken inside ih =>
      have bounded : start < bytes.data.toList.length := by
        simpa using inside
      rw [ih, List.drop_eq_getElem_cons bounded]
      simp [ByteArray.get!, inside]
  | case2 start taken outside =>
      have beyond : bytes.data.toList.length ≤ start := by
        simpa using outside
      rw [List.drop_eq_nil_of_le beyond, List.append_nil]

/-- A text is encoded character by character. -/
theorem encodeUtf8_eq_flatMap (s : String) :
    encodeUtf8 s = s.toList.flatMap String.utf8EncodeChar := by
  have encoded : s.toUTF8 = s.toList.utf8Encode := String.utf8Encode_toList.symm
  rw [encodeUtf8, ByteArray.toList, toList_loop_eq, encoded, List.utf8Encode,
    List.toList_data_toByteArray]
  rfl

/-! ## The bytes of a character -/

theorem isUtf8Tail_iff {b : UInt8} : isUtf8Tail b = true ↔ 0x80 ≤ b.toNat ∧ b.toNat ≤ 0xbf := by
  simp [isUtf8Tail, UInt8.le_iff_toNat_le]

/-- Second bytes are restricted behind four first bytes, against long forms and surrogates. -/
theorem isUtf8Second_iff {first second : UInt8} :
    isUtf8Second first second = true ↔ isUtf8Tail second = true ∧
      (first.toNat = 0xe0 → 0xa0 ≤ second.toNat) ∧ (first.toNat = 0xed → second.toNat ≤ 0x9f) ∧
      (first.toNat = 0xf0 → 0x90 ≤ second.toNat) ∧ (first.toNat = 0xf4 → second.toNat ≤ 0x8f) := by
  simp [isUtf8Second, UInt8.le_iff_toNat_le, ← UInt8.toNat_inj, Decidable.imp_iff_not_or,
    and_assoc]

variable {a b c d : UInt8} {rest : List UInt8}

/-- A byte below the first bound is a character by itself. -/
theorem utf8Head_one (lead : a.toNat < 0x80) :
    utf8Head a rest = .char (Char.ofNat a.toNat) 1 := by
  simp [utf8Head, UInt8.lt_iff_toNat_lt, lead]

theorem utf8Head_two (low : 0xc2 ≤ a.toNat) (high : a.toNat < 0xe0) (second : isUtf8Tail b = true) :
    utf8Head a (b :: rest) = .char (Char.ofNat (a.toNat % 32 * 64 + utf8Bits b)) 2 := by
  have notOne : ¬ a.toNat < 0x80 := by omega
  have isLead : ¬ (a.toNat < 0xc2 ∨ 0xf4 < a.toNat) := by omega
  simp [utf8Head, UInt8.lt_iff_toNat_lt, notOne, isLead, high, second]

theorem utf8Head_three (low : 0xe0 ≤ a.toNat) (high : a.toNat < 0xf0)
    (second : isUtf8Second a b = true) (third : isUtf8Tail c = true) :
    utf8Head a (b :: c :: rest) =
      .char (Char.ofNat (a.toNat % 16 * 4096 + utf8Bits b * 64 + utf8Bits c)) 3 := by
  have notOne : ¬ a.toNat < 0x80 := by omega
  have isLead : ¬ (a.toNat < 0xc2 ∨ 0xf4 < a.toNat) := by omega
  have notTwo : ¬ a.toNat < 0xe0 := by omega
  simp [utf8Head, UInt8.lt_iff_toNat_lt, notOne, isLead, notTwo, high, second, third]

theorem utf8Head_four (low : 0xf0 ≤ a.toNat) (high : a.toNat ≤ 0xf4)
    (second : isUtf8Second a b = true) (third : isUtf8Tail c = true)
    (fourth : isUtf8Tail d = true) :
    utf8Head a (b :: c :: d :: rest) =
      .char (Char.ofNat (a.toNat % 8 * 262144 + utf8Bits b * 4096 + utf8Bits c * 64 +
        utf8Bits d)) 4 := by
  have notOne : ¬ a.toNat < 0x80 := by omega
  have isLead : ¬ (a.toNat < 0xc2 ∨ 0xf4 < a.toNat) := by omega
  have notTwo : ¬ a.toNat < 0xe0 := by omega
  have notThree : ¬ a.toNat < 0xf0 := by omega
  simp [utf8Head, UInt8.lt_iff_toNat_lt, notOne, isLead, notTwo, notThree, second, third, fourth]

theorem toNat_tail (n : Nat) : (UInt8.ofNat (n % 64 + 128)).toNat = n % 64 + 128 :=
  UInt8.toNat_ofNat_of_lt' (by simp only [UInt8.size]; omega)

theorem isUtf8Tail_tail (n : Nat) : isUtf8Tail (UInt8.ofNat (n % 64 + 128)) = true := by
  rw [isUtf8Tail_iff, toNat_tail]
  omega

theorem utf8Bits_tail (n : Nat) : utf8Bits (UInt8.ofNat (n % 64 + 128)) = n % 64 := by
  rw [utf8Bits, toNat_tail]
  omega

/-- What a character is encoded as is read as this character. -/
theorem utf8Head_utf8EncodeChar (c : Char) (rest : List UInt8) :
    ∃ first tail, String.utf8EncodeChar c = first :: tail ∧
      utf8Head first (tail ++ rest) = .char c (tail.length + 1) := by
  have valid : c.val.toNat < 0xd800 ∨ 0xdfff < c.val.toNat ∧ c.val.toNat < 0x110000 := c.valid
  have whole : Char.ofNat c.val.toNat = c := Char.ofNat_toNat c
  rw [String.utf8EncodeChar]
  generalize c.val.toNat = code at valid whole
  have lead {n : Nat} (small : n < 256) : (UInt8.ofNat n).toNat = n :=
    UInt8.toNat_ofNat_of_lt' small
  -- One case for each width; the tails carry six bits each, the first byte the others.
  by_cases one : code ≤ 0x7f
  · refine ⟨_, _, if_pos one, ?_⟩
    rw [utf8Head_one (by rw [lead (by omega)]; omega), lead (by omega), whole]
    rfl
  rw [if_neg one]
  by_cases two : code ≤ 0x7ff
  · have first := lead (show code / 64 % 32 + 0xc0 < 256 by omega)
    refine ⟨_, _, if_pos two, ?_⟩
    rw [List.cons_append, utf8Head_two (by omega) (by omega) (isUtf8Tail_tail code), first,
      utf8Bits_tail, show (code / 64 % 32 + 0xc0) % 32 * 64 + code % 64 = code by omega, whole]
    rfl
  rw [if_neg two]
  by_cases three : code ≤ 0xffff
  · have first := lead (show code / 4096 % 16 + 0xe0 < 256 by omega)
    have second : isUtf8Second (UInt8.ofNat (code / 4096 % 16 + 0xe0))
        (UInt8.ofNat (code / 64 % 64 + 128)) = true := by
      rw [isUtf8Second_iff, first, toNat_tail]
      exact ⟨isUtf8Tail_tail _, by omega⟩
    refine ⟨_, _, if_pos three, ?_⟩
    rw [List.cons_append, List.cons_append,
      utf8Head_three (by omega) (by omega) second (isUtf8Tail_tail code), first, utf8Bits_tail,
      utf8Bits_tail, show (code / 4096 % 16 + 0xe0) % 16 * 4096 + code / 64 % 64 * 64 +
        code % 64 = code by omega, whole]
    rfl
  · have first := lead (show code / 262144 % 8 + 0xf0 < 256 by omega)
    have second : isUtf8Second (UInt8.ofNat (code / 262144 % 8 + 0xf0))
        (UInt8.ofNat (code / 4096 % 64 + 128)) = true := by
      rw [isUtf8Second_iff, first, toNat_tail]
      exact ⟨isUtf8Tail_tail _, by omega⟩
    refine ⟨_, _, if_neg three, ?_⟩
    rw [List.cons_append, List.cons_append, List.cons_append,
      utf8Head_four (by omega) (by omega) second (isUtf8Tail_tail _) (isUtf8Tail_tail code), first,
      utf8Bits_tail, utf8Bits_tail, utf8Bits_tail,
      show (code / 262144 % 8 + 0xf0) % 8 * 262144 + code / 4096 % 64 * 4096 +
        code / 64 % 64 * 64 + code % 64 = code by omega, whole]
    rfl

/-! ## Reading what was written -/

/-- Bytes that belong to a character already read are passed over. -/
theorem decodeLenientFrom_append (passed rest : List UInt8) :
    decodeLenientFrom passed.length (passed ++ rest) = decodeLenientFrom 0 rest := by
  induction passed with
  | nil => rfl
  | cons byte passed ih => exact ih

theorem decodeLenientFrom_flatMap (cs : List Char) :
    decodeLenientFrom 0 (cs.flatMap String.utf8EncodeChar) = cs := by
  induction cs with
  | nil => rfl
  | cons c cs ih =>
      obtain ⟨first, tail, bytes, head⟩ :=
        utf8Head_utf8EncodeChar c (cs.flatMap String.utf8EncodeChar)
      rw [List.flatMap_cons, bytes, List.cons_append, decodeLenientFrom, head]
      simp only [Nat.add_sub_cancel, decodeLenientFrom_append, ih]

/-- The bytes of a text are read as the text. -/
theorem decodeLenient_encodeUtf8 (s : String) : decodeLenient (encodeUtf8 s) = s := by
  rw [decodeLenient, encodeUtf8_eq_flatMap, decodeLenientFrom_flatMap, String.ofList_toList]

/-- Here the position is counted on as well, for a fault to name it. -/
theorem decodeStrictFrom_append (position : Nat) (passed rest : List UInt8) :
    decodeStrictFrom position passed.length (passed ++ rest) =
      decodeStrictFrom (position + passed.length) 0 rest := by
  induction passed generalizing position with
  | nil => rfl
  | cons byte passed ih =>
      rw [List.length_cons, List.cons_append, decodeStrictFrom, ih, Nat.add_right_comm]
      rfl

theorem decodeStrictFrom_flatMap (position : Nat) (cs : List Char) :
    decodeStrictFrom position 0 (cs.flatMap String.utf8EncodeChar) = .ok cs := by
  induction cs generalizing position with
  | nil => rfl
  | cons c cs ih =>
      obtain ⟨first, tail, bytes, head⟩ :=
        utf8Head_utf8EncodeChar c (cs.flatMap String.utf8EncodeChar)
      rw [List.flatMap_cons, bytes, List.cons_append, decodeStrictFrom, head]
      simp only [Nat.add_sub_cancel, decodeStrictFrom_append, ih]
      rfl

/-- The strict reader finds no fault in the bytes of a text. -/
theorem decodeStrict_encodeUtf8 (s : String) : decodeStrict (encodeUtf8 s) = .ok s := by
  rw [decodeStrict, encodeUtf8_eq_flatMap, decodeStrictFrom_flatMap, Except.map,
    String.ofList_toList]

end PathExpr.Text

import PathExpr.Format.Json.Reader
import PathExpr.Format.Json.Writer
import PathExpr.Proofs.Number.Digits

/-!
# Written scalars are read back

A text between quotes is read up to its closing quote, whatever characters it
has and whatever stands behind it.  A number is read up to its last digit, as
long as nothing stands behind it that could belong to a number; in a document a
comma, a closing bracket, a line end or nothing does.
-/

namespace PathExpr.Format.Json

open PathExpr.Number PathExpr.Text

/-! ## Texts -/

/-- One code unit in front of those of a text. -/
def withUnit (unit : Nat) (units : List Nat × List Char) : List Nat × List Char :=
  (unit :: units.1, units.2)

theorem readHex_hexPadded {a b c d : Char} {n : Nat} (digits : hexPadded 4 n = [a, b, c, d])
    (small : n < 16 ^ 4) : readHex a b c d = some n := by
  have allDigits : [a, b, c, d].all (isDigitIn 16) = true := by
    rw [← digits, List.all_eq_true]
    intro digit member
    exact isDigitIn_of_mem_hexPadded member
  rw [readHex, if_pos allDigits, ← digits, ofDigits_hexPadded, Nat.mod_eq_of_lt small]

theorem readUnits_simple {e c : Char} (letter : e ≠ 'u') (escape : simpleEscape? e = some c)
    (rest : List Char) :
    readUnits ('\\' :: e :: rest) = (readUnits rest).map (withUnit c.toNat) := by
  rw [readUnits]
  · simp only [escape, Option.bind_eq_bind, Option.bind_some]
    cases readUnits rest <;> rfl
  · intro a b c d after numbered
    exact absurd numbered letter

theorem readUnits_numbered {a b c d : Char} {unit : Nat} (number : readHex a b c d = some unit)
    (rest : List Char) :
    readUnits ('\\' :: 'u' :: a :: b :: c :: d :: rest) =
      (readUnits rest).map (withUnit unit) := by
  rw [readUnits]
  simp only [number, Option.bind_eq_bind, Option.bind_some]
  cases readUnits rest <;> rfl

theorem readUnits_plain {c : Char} (quote : c ≠ '"') (backslash : c ≠ '\\')
    (printable : ¬ c.toNat < 32) (rest : List Char) :
    readUnits (c :: rest) = (readUnits rest).map (withUnit c.toNat) := by
  rw [readUnits]
  · simp only [backslash, printable, decide_false, Bool.or_self]
    cases readUnits rest <;> rfl
  · exact quote
  · intro a b c d after same
    exact absurd same backslash
  · intro e after same
    exact absurd same backslash

/-- A character in a text is read as its code, however it is written. -/
theorem readUnits_escapedChar (c : Char) (rest : List Char) :
    readUnits (escapedChar c ++ rest) = (readUnits rest).map (withUnit c.toNat) := by
  -- Seven characters have an escape of one letter, the other control characters a number.
  by_cases short : c ∈ ['"', '\\', '\n', '\r', '\t', '\x08', '\x0c']
  · simp only [List.mem_cons, List.not_mem_nil, or_false] at short
    rcases short with rfl | rfl | rfl | rfl | rfl | rfl | rfl <;>
      exact readUnits_simple (by decide) rfl rest
  · simp only [List.mem_cons, List.not_mem_nil, or_false, not_or] at short
    by_cases control : c.toNat < 32
    · have numbered : escapedChar c = '\\' :: 'u' :: hexPadded 4 c.toNat := by
        simp [escapedChar, short, control]
      rw [numbered]
      exact readUnits_numbered (readHex_hexPadded rfl (by omega)) rest
    · have itself : escapedChar c = [c] := by
        simp [escapedChar, short, control]
      rw [itself]
      exact readUnits_plain short.1 short.2.1 control rest

theorem readUnits_flatMap (cs rest : List Char) :
    readUnits (cs.flatMap escapedChar ++ '"' :: rest) = some (cs.map Char.toNat, rest) := by
  induction cs with
  | nil => rw [List.flatMap_nil, List.nil_append, readUnits, List.map_nil]
  | cons c cs ih =>
      rw [List.flatMap_cons, List.append_assoc, readUnits_escapedChar, ih]
      rfl

/-- No character has the code of half of a pair. -/
theorem unit_toNat (c : Char) :
    isHighUnit c.toNat = false ∧ isLowUnit c.toNat = false := by
  have valid : c.toNat < 0xd800 ∨ 0xdfff < c.toNat ∧ c.toNat < 0x110000 := c.valid
  simp only [isHighUnit, isLowUnit, Bool.and_eq_false_iff, decide_eq_false_iff_not]
  omega

theorem loneUnit_toNat (c : Char) : loneUnit c.toNat = c := by
  simp [loneUnit, unit_toNat c]

theorem joinUnits_map_toNat (cs : List Char) : joinUnits (cs.map Char.toNat) = cs := by
  induction cs with
  | nil => rfl
  | cons c cs ih =>
      cases cs with
      | nil => rw [List.map_cons, List.map_nil, joinUnits, loneUnit_toNat]
      | cons next cs =>
          rw [List.map_cons, List.map_cons, joinUnits, (unit_toNat c).1, Bool.false_and,
            if_neg Bool.false_ne_true, loneUnit_toNat, ← List.map_cons, ih]

/-- A written text is read back from behind its opening quote. -/
theorem readText_flatMap (s : String) (rest : List Char) :
    readText (s.toList.flatMap escapedChar ++ '"' :: rest) = some (s, rest) := by
  rw [readText, readUnits_flatMap, Option.map_some, joinUnits_map_toNat, String.ofList_toList]

/-! ## Numbers -/

/-- Nothing at the start of the characters could belong to a number in front of them. -/
def ClosesNumber (rest : List Char) : Prop :=
  ∀ c ∈ rest.head?, isDigit c = false ∧ c ≠ '.' ∧ c ≠ 'e' ∧ c ≠ 'E'

namespace ClosesNumber

variable {rest : List Char}

theorem takeWhile_digits (closes : ClosesNumber rest) {digits : List Char}
    (all : ∀ c ∈ digits, isDigit c = true) :
    (digits ++ rest).takeWhile isDigit = digits ∧ (digits ++ rest).dropWhile isDigit = rest := by
  rw [List.takeWhile_append_of_pos all, List.dropWhile_append_of_pos all]
  cases rest with
  | nil => simp
  | cons c rest =>
      have stop := (closes c rfl).1
      simp [stop]

theorem takeWhole (closes : ClosesNumber rest) (n : Nat) :
    takeWhole (Nat.toDigits 10 n ++ rest) = some (Nat.toDigits 10 n, rest) := by
  rcases toDigits_starts n with rfl | ⟨lead, others, digits, nonzero⟩
  · rfl
  · have all : ∀ c ∈ lead :: others, isDigit c = true := by
      intro c member
      exact isDigit_of_mem_toDigits (digits ▸ member)
    obtain ⟨kept, left⟩ := closes.takeWhile_digits fun c member =>
      all c (List.mem_cons_of_mem lead member)
    rw [digits, List.cons_append, Json.takeWhole, if_pos (all lead List.mem_cons_self), kept, left]
    exact fun same => absurd same nonzero

theorem takeFraction (closes : ClosesNumber rest) : takeFraction rest = none := by
  unfold Json.takeFraction
  split
  · exact absurd rfl (closes _ rfl).2.1
  · rfl

theorem takeExponent (closes : ClosesNumber rest) : takeExponent rest = none := by
  unfold Json.takeExponent
  split
  · next mark rest =>
    have noMark := (closes mark rfl).2.2
    simp [noMark]
  · rfl

end ClosesNumber

/-- The digits of an amount are read behind its sign. -/
theorem readMagnitude_toDigits (negative : Bool) {n : Nat}
    (short : n < 10 ^ digitLimit) {rest : List Char} (closes : ClosesNumber rest) :
    readMagnitude negative (Nat.toDigits 10 n ++ rest) =
      .ok (.int (signed negative n), rest) := by
  have number : wholeNumber negative (Nat.toDigits 10 n) = .ok (.int (signed negative n)) := by
    have within := (Nat.length_toDigits_le_iff (by decide) (by decide)).mpr short
    rw [wholeNumber, if_neg (Nat.not_lt.mpr within), ofDigits_toDigits]
  rw [readMagnitude, closes.takeWhole]
  simp [require, closes.takeFraction, closes.takeExponent, number, bind, Except.bind, pure,
    Except.pure]

theorem ne_of_isDigit {c other : Char} (digit : isDigit c = true)
    (noDigit : isDigit other = false) : c ≠ other := by
  rintro rfl
  cases digit.symm.trans noDigit

theorem readScalar_digits {lead : Char} (digit : isDigit lead = true) (rest : List Char) :
    readScalar (lead :: rest) = readMagnitude false (lead :: rest) := by
  rw [readScalar]
  all_goals
    intro after same
    exact ne_of_isDigit digit rfl (List.cons.inj same).1

theorem readScalar_minus {lead : Char} (digit : isDigit lead = true) (rest : List Char) :
    readScalar ('-' :: lead :: rest) = readMagnitude true (lead :: rest) := by
  rw [readScalar]
  intro after same
  exact ne_of_isDigit digit rfl (List.cons.inj same).1

/-- A written integer within the digit limit is read back. -/
theorem readScalar_int {n : Int} (short : n.natAbs < 10 ^ digitLimit) {rest : List Char}
    (closes : ClosesNumber rest) :
    readScalar ((toString n).toList ++ rest) = .ok (.int n, rest) := by
  have magnitude := readMagnitude_toDigits (decide (n < 0)) short closes
  rw [signed_natAbs] at magnitude
  rw [toList_toString]
  cases digits : Nat.toDigits 10 n.natAbs with
  | nil => exact absurd digits Nat.toDigits_ne_nil
  | cons lead others =>
      have digit : isDigit lead = true := isDigit_of_mem_toDigits (digits ▸ List.mem_cons_self)
      rw [digits, List.cons_append] at magnitude
      by_cases negative : n < 0
      · rw [if_pos negative]
        simpa [negative, readScalar_minus digit] using magnitude
      · rw [if_neg negative]
        simpa [negative, readScalar_digits digit] using magnitude

end PathExpr.Format.Json

import Mathlib.Algebra.Group.Nat.Defs
import PathExpr.Number.Reading
import PathExpr.Text.Quoted

/-!
# Digits that are read back

The decimal digits of a number, and its last hexadecimal digits up to a given
width, are read as the number they were made of.
-/

namespace PathExpr.Number

open PathExpr.Text

theorem digitValue?_digitChar : ∀ d < 10, digitValue? (Nat.digitChar d) = some d := by
  decide

theorem digitValue?_hexDigit : ∀ d < 16, digitValue? (hexDigit d) = some d := by
  decide

theorem toNat_hexDigit :
    ∀ d < 16, 32 ≤ (hexDigit d).toNat ∧ (hexDigit d).toNat < 127 := by
  decide

/-- No character has a code of more than three bytes. -/
theorem toNat_lt (c : Char) : c.toNat < 0x110000 := by
  have valid : c.toNat < 0xd800 ∨ 0xdfff < c.toNat ∧ c.toNat < 0x110000 := c.valid
  omega

theorem ofDigits_append_singleton (base : Nat) (cs : List Char) (c : Char) :
    ofDigits base (cs ++ [c]) = ofDigits base cs * base + (digitValue? c).getD 0 := by
  simp [ofDigits]

/-! ## Decimal digits -/

theorem ofDigits_toDigits (n : Nat) : ofDigits 10 (Nat.toDigits 10 n) = n := by
  induction n using Nat.strongRecOn with
  | ind n ih =>
      rw [Nat.toDigits_eq_if (by decide)]
      split
      · next small => simp [ofDigits, digitValue?_digitChar n small]
      · next large =>
        rw [ofDigits_append_singleton, ih (n / 10) (by omega),
          digitValue?_digitChar (n % 10) (by omega), Option.getD_some]
        omega

theorem isDigit_eq (c : Char) : isDigit c = c.isDigit := by
  simp [isDigit, Char.isDigit, Char.le_def]

theorem isDigit_of_mem_toDigits {n : Nat} {c : Char} (member : c ∈ Nat.toDigits 10 n) :
    isDigit c = true := by
  rw [isDigit_eq]
  exact Nat.isDigit_of_mem_toDigits (by decide) (by decide) member

/-- Only the number zero starts with the digit zero. -/
theorem toDigits_starts (n : Nat) :
    n = 0 ∨ ∃ lead rest, Nat.toDigits 10 n = lead :: rest ∧ lead ≠ '0' := by
  induction n using Nat.strongRecOn with
  | ind n ih =>
      rw [Nat.toDigits_eq_if (by decide)]
      split
      · next small =>
        rcases Nat.eq_zero_or_pos n with zero | positive
        · exact Or.inl zero
        · have nonzero : ∀ d < 10, 0 < d → Nat.digitChar d ≠ '0' := by
            decide
          exact Or.inr ⟨_, _, rfl, nonzero n small positive⟩
      · next large =>
        rcases ih (n / 10) (by omega) with zero | ⟨lead, rest, digits, nonzero⟩
        · omega
        · exact Or.inr ⟨lead, _, by rw [digits, List.cons_append], nonzero⟩

/-- The text of an integer is a minus sign, where it is negative, and the digits of its amount. -/
theorem toList_toString (n : Int) :
    (toString n).toList = (if n < 0 then ['-'] else []) ++ Nat.toDigits 10 n.natAbs := by
  rw [Int.toString_eq_repr]
  cases n with
  | ofNat amount => simp [Int.repr, Nat.repr_eq_ofList_toDigits]
  | negSucc below => simp [Int.repr, Nat.repr_eq_ofList_toDigits, Int.negSucc_lt_zero]

/-- The text of an integer starts with a minus sign or a digit. -/
theorem toString_starts (n : Int) :
    ∃ lead rest, (toString n).toList = lead :: rest ∧ (lead = '-' ∨ isDigit lead = true) := by
  rw [toList_toString]
  split
  · exact ⟨'-', _, rfl, Or.inl rfl⟩
  · cases digits : Nat.toDigits 10 n.natAbs with
    | nil => exact absurd digits Nat.toDigits_ne_nil
    | cons lead rest =>
        have digit := isDigit_of_mem_toDigits (digits ▸ List.mem_cons_self)
        exact ⟨lead, rest, rfl, Or.inr digit⟩

/-- An integer is its sign applied to its amount. -/
theorem signed_natAbs (n : Int) : signed (decide (n < 0)) n.natAbs = n := by
  by_cases negative : n < 0
  · rw [signed, if_pos (decide_eq_true negative)]
    omega
  · rw [signed, decide_eq_false negative, if_neg Bool.false_ne_true]
    omega

/-! ## Hexadecimal digits -/

theorem ofDigits_hexPadded (width n : Nat) : ofDigits 16 (hexPadded width n) = n % 16 ^ width := by
  induction width generalizing n with
  | zero => simp [hexPadded, ofDigits, Nat.mod_one]
  | succ width ih =>
      rw [hexPadded, ofDigits_append_singleton, ih, digitValue?_hexDigit (n % 16) (by omega),
        Option.getD_some, Nat.pow_succ, Nat.mul_comm (16 ^ width) 16, Nat.mod_mul]
      omega

theorem length_hexPadded (width n : Nat) : (hexPadded width n).length = width := by
  induction width generalizing n with
  | zero => rfl
  | succ width ih => rw [hexPadded, List.length_append, ih, List.length_singleton]

theorem eq_hexDigit_of_mem_hexPadded {width n : Nat} {c : Char} (member : c ∈ hexPadded width n) :
    ∃ d < 16, c = hexDigit d := by
  induction width generalizing n with
  | zero => cases member
  | succ width ih =>
      rcases List.mem_append.mp member with before | last
      · exact ih before
      · exact ⟨n % 16, Nat.mod_lt n (by decide), List.mem_singleton.mp last⟩

theorem isDigitIn_of_mem_hexPadded {width n : Nat} {c : Char} (member : c ∈ hexPadded width n) :
    isDigitIn 16 c = true := by
  obtain ⟨d, small, rfl⟩ := eq_hexDigit_of_mem_hexPadded member
  rw [isDigitIn, digitValue?_hexDigit d small]
  exact decide_eq_true small

/-- Digits spelled otherwise write the same number. -/
theorem ofDigits_map {base : Nat} {cs : List Char} {spell : Char → Char}
    (same : ∀ c ∈ cs, digitValue? (spell c) = digitValue? c) :
    ofDigits base (cs.map spell) = ofDigits base cs := by
  have values : ∀ cs, ofDigits base cs =
      (cs.map digitValue?).foldl (fun n value => n * base + value.getD 0) 0 := by
    intro cs
    rw [List.foldl_map]
    rfl
  have spelled : cs.map (digitValue? ∘ spell) = cs.map digitValue? := List.map_congr_left same
  rw [values, values, List.map_map, spelled]

end PathExpr.Number

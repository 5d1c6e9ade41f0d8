import Mathlib
import PathExpr.Format.Reading
import PathExpr.Number.Reading
import PathExpr.Text.Split

/-!
# How readings end

A reading ends with a result, or refuses its document as malformed, or fails with
a fault.  What its result is like and which faults are allowed is stated as a
triple, and a triple for each reader follows from those of the readers that it
calls.

Most readers hand on what follows the part that they have read.  That is always
the end of the document, and so whatever a fault says of the part that is being
read holds of the document.
-/

namespace PathExpr.Format

open Std.Do PathExpr.Text

/-- Malformed, or one of the allowed faults. -/
def Refusal.Within (allowed : Fault → Prop) : Refusal → Prop
  | malformed => True
  | fault cause => allowed cause

@[simp, grind =]
theorem Refusal.within_fault (allowed : Fault → Prop) (cause : Fault) :
    (fault cause).Within allowed ↔ allowed cause :=
  Iff.rfl

/-- The reading has a result of this kind, or is malformed, or ends in an allowed fault. -/
abbrev Ends {α : Type} (result : α → Prop) (allowed : Fault → Prop) :
    PostCond α (.except Refusal .pure) :=
  post⟨fun value => ⌜result value⌝, fun why => ⌜why.Within allowed⌝⟩

/-- What follows the part that has been read is the end of the document. -/
abbrev Leaves {α : Type} (whole : List Char) (allowed : Fault → Prop) :
    PostCond (α × List Char) (.except Refusal .pure) :=
  Ends (fun part => part.2 <:+ whole) allowed

section Specs

variable {α : Type} {allowed : Fault → Prop}

/-- A fault at the end of a reading is an allowed one. -/
theorem allowed_of_triple {result : α → Prop} {reading : Reading α} {cause : Fault}
    (ends : ⦃⌜True⌝⦄ reading ⦃Ends result allowed⦄)
    (failed : reading = .error (.fault cause)) : allowed cause := by
  subst failed
  exact ends trivial

/-- The result of a reading that has one is of the stated kind. -/
theorem result_of_triple {result : α → Prop} {reading : Reading α} {value : α}
    (ends : ⦃⌜True⌝⦄ reading ⦃Ends result allowed⦄) (read : reading = .ok value) :
    result value := by
  subst read
  exact ends trivial

/-- The refusal of a reading is an allowed one. -/
theorem refusal_of_triple {result : α → Prop} {reading : Reading α} {why : Refusal}
    (ends : ⦃⌜True⌝⦄ reading ⦃Ends result allowed⦄) (failed : reading = .error why) :
    why.Within allowed := by
  subst failed
  exact ends trivial

/-- The refusal of a step from a state that meets the precondition is an allowed one. -/
theorem refusal_of_run {σ : Type} {before : σ → Prop} {result : α → σ → Prop}
    {step : StateT σ Reading α}
    (ends : ⦃fun state => ⌜before state⌝⦄ step
      ⦃post⟨fun value state => ⌜result value state⌝, fun why => ⌜why.Within allowed⌝⟩⦄)
    {state : σ} (holds : before state) {why : Refusal} (failed : step.run state = .error why) :
    why.Within allowed := by
  have run := ends state holds
  change (wp⟦step.run state⟧ _).down at run
  rw [failed] at run
  exact run

/-- What follows is the end of a longer document, too. -/
theorem leaves_of_suffix {part whole : List Char} {reading : Reading (α × List Char)}
    (behind : part <:+ whole) (ends : ⦃⌜True⌝⦄ reading ⦃Leaves part allowed⦄) :
    ⦃⌜True⌝⦄ reading ⦃Leaves whole allowed⦄ := by
  cases reading with
  | ok value => exact fun _ => (show value.2 <:+ part from ends trivial).trans behind
  | error why => exact ends

@[spec]
theorem ok_spec {Q : PostCond α (.except Refusal .pure)} (value : α) :
    ⦃Q.1 value⦄ (.ok value : Reading α) ⦃Q⦄ := by
  exact fun holds => holds

@[spec]
theorem malformed_spec {Q : PostCond α (.except Refusal .pure)} :
    ⦃Q.2.1 .malformed⦄ (malformed : Reading α) ⦃Q⦄ := by
  exact fun holds => holds

@[spec]
theorem failWith_spec {Q : PostCond α (.except Refusal .pure)} (cause : Fault) :
    ⦃Q.2.1 (.fault cause)⦄ (failWith cause : Reading α) ⦃Q⦄ := by
  exact fun holds => holds

@[spec]
theorem require_spec (found : Option α) :
    ⦃⌜True⌝⦄ require found ⦃Ends (fun value => found = some value) allowed⦄ := by
  cases found with
  | none => exact fun _ => trivial
  | some value => exact fun _ => rfl

end Specs

/-! ## Ends of the document -/

section Suffixes

variable {c : Char} {cs rest whole : List Char}

@[grind →]
theorem suffix_of_cons (behind : c :: rest <:+ whole) : rest <:+ whole :=
  (List.suffix_cons c rest).trans behind

@[grind →]
theorem suffix_of_word {d e f : Char} (behind : c :: d :: e :: f :: rest <:+ whole) :
    rest <:+ whole :=
  (List.suffix_append [c, d, e, f] rest).trans behind

@[grind →]
theorem cutChars?_suffix {mark before : List Char}
    (cut : cutChars? mark cs = some (before, rest)) : rest <:+ cs :=
  ⟨before ++ mark, (eq_append_of_cutChars? cut).symm⟩

end Suffixes

/-! ## Long numbers -/

/-- The fault of an integer with too many digits, which stand in the document in this order. -/
def LongNumber (whole : List Char) (cause : Fault) : Prop :=
  ∃ digits : List Char, cause = .tooManyDigits (some digits.length) ∧
    Number.digitLimit < digits.length ∧ digits.Sublist whole ∧
    ∀ d ∈ digits, Number.isDigit d = true

theorem LongNumber.mono {part whole : List Char} {cause : Fault} (long : LongNumber part cause)
    (inside : part.Sublist whole) : LongNumber whole cause := by
  obtain ⟨digits, same, many, shown, all⟩ := long
  exact ⟨digits, same, many, shown.trans inside, all⟩

end PathExpr.Format

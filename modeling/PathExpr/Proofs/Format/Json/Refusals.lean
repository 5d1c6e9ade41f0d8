import PathExpr.Format.Json.Reader
import PathExpr.Proofs.Format.Refusals

/-!
# Refusals of JSON

The only fault of a JSON document is an integer with too many digits.
-/

namespace PathExpr.Format.Json

open Std.Do PathExpr.Number

set_option mvcgen.warning false

variable {whole cs rest : List Char}

/-- The code units of a text are read up to its closing quote; the document goes on behind it. -/
theorem readUnits_suffix {units : List Nat} (read : readUnits cs = some (units, rest)) :
    rest <:+ cs := by
  fun_induction readUnits cs generalizing units rest with
  | case1 => cases read
  | case2 behind =>
      cases read
      exact List.suffix_cons _ _
  | case3 a b c d behind ih =>
      obtain ⟨unit, -, more⟩ := Option.bind_eq_some_iff.mp read
      obtain ⟨parts, found, same⟩ := Option.bind_eq_some_iff.mp more
      cases same
      exact (ih found).trans (List.suffix_append ['\\', 'u', a, b, c, d] behind)
  | case4 e behind _ ih =>
      obtain ⟨c, -, more⟩ := Option.bind_eq_some_iff.mp read
      obtain ⟨parts, found, same⟩ := Option.bind_eq_some_iff.mp more
      cases same
      exact (ih found).trans (List.suffix_append ['\\', e] behind)
  | case5 => cases read
  | case6 c behind _ _ _ _ ih =>
      obtain ⟨parts, found, same⟩ := Option.bind_eq_some_iff.mp read
      cases same
      exact (ih found).trans (List.suffix_cons c behind)

@[grind →]
theorem readText_suffix {part : String × List Char} (read : readText cs = some part) :
    part.2 <:+ cs := by
  obtain ⟨parts, units, rfl⟩ := Option.map_eq_some_iff.mp read
  exact readUnits_suffix units

/-- The whole part of a number consists of the digits in front of what follows. -/
theorem takeWhole_append {digits : List Char} (taken : takeWhole cs = some (digits, rest)) :
    cs = digits ++ rest ∧ ∀ d ∈ digits, isDigit d = true := by
  unfold takeWhole at taken
  split at taken
  · cases taken
    exact ⟨rfl, List.forall_mem_singleton.mpr (by decide)⟩
  · next c behind _ =>
    split at taken
    · next first =>
      cases taken
      refine ⟨by simp, ?_⟩
      exact List.forall_mem_cons.mpr ⟨first, fun d member => List.mem_takeWhile_imp member⟩
    · cases taken
  · cases taken

theorem takeFraction_suffix {digits : List Char} (taken : takeFraction cs = some (digits, rest)) :
    rest <:+ cs := by
  simp only [takeFraction] at taken
  grind [List.dropWhile_suffix]

theorem takeSign_suffix (cs : List Char) : (takeSign cs).2 <:+ cs := by
  unfold takeSign
  split
  · exact List.suffix_cons _ _
  · exact List.suffix_cons _ _
  · exact List.suffix_rfl

theorem takeExponent_suffix {exponent : Int} (taken : takeExponent cs = some (exponent, rest)) :
    rest <:+ cs := by
  simp only [takeExponent] at taken
  grind [takeSign_suffix, List.dropWhile_suffix]

/-- With or without a fraction, the end of the document follows. -/
theorem getD_takeFraction_suffix (behind : cs <:+ whole) :
    ((takeFraction cs).getD ([], cs)).2 <:+ whole := by
  cases taken : takeFraction cs with
  | none => exact behind
  | some parts => exact (takeFraction_suffix taken).trans behind

/-- The digits of an integer, all of which stand in the document, are what may be too many. -/
@[spec]
theorem wholeNumber_spec (negative : Bool) {digits : List Char} (shown : digits.Sublist whole)
    (all : ∀ d ∈ digits, isDigit d = true) :
    ⦃⌜True⌝⦄ wholeNumber negative digits ⦃Ends (fun _ => True) (LongNumber whole)⦄ := by
  mvcgen [wholeNumber]
  next long => exact ⟨digits, rfl, long, shown, all⟩

/-- A number with a fraction or an exponent has no fault; without them it is an integer. -/
@[spec]
theorem readMagnitude_spec (negative : Bool) (behind : cs <:+ whole) :
    ⦃⌜True⌝⦄ readMagnitude negative cs ⦃Leaves whole (LongNumber whole)⦄ := by
  have parts : ∀ {parts}, takeWhole cs = some parts → parts.1.Sublist whole ∧
      (∀ d ∈ parts.1, isDigit d = true) ∧ parts.2 <:+ whole := by
    intro parts taken
    obtain ⟨rfl, digits⟩ := takeWhole_append taken
    exact ⟨(List.sublist_append_left _ _).trans behind.sublist, digits,
      (List.suffix_append _ _).trans behind⟩
  mvcgen [readMagnitude]
  case vc1 =>
    next exponent _ taken =>
    exact (takeExponent_suffix exponent).trans (getD_takeFraction_suffix (parts taken).2.2)
  case shown =>
    next taken => exact (parts taken).1
  case all =>
    next taken => exact (parts taken).2.1
  all_goals exact getD_takeFraction_suffix (parts ‹_›).2.2

@[spec]
theorem readScalar_spec (behind : cs <:+ whole) :
    ⦃⌜True⌝⦄ readScalar cs ⦃Leaves whole (LongNumber whole)⦄ := by
  mvcgen [readScalar] <;> grind

theorem skipGap_suffix (cs : List Char) : skipGap cs <:+ cs :=
  List.dropWhile_suffix isGap

/-- Nothing but a long number is a fault, at any place of the document. -/
theorem readers_spec (fuel : Nat) :
    (∀ cs, cs <:+ whole →
      ⦃⌜True⌝⦄ readValue fuel cs ⦃Leaves whole (LongNumber whole)⦄) ∧
    (∀ cs, cs <:+ whole →
      ⦃⌜True⌝⦄ readItems fuel cs ⦃Leaves whole (LongNumber whole)⦄) ∧
    (∀ cs, cs <:+ whole →
      ⦃⌜True⌝⦄ readMembers fuel cs ⦃Leaves whole (LongNumber whole)⦄) := by
  induction fuel with
  | zero =>
      refine ⟨fun cs _ => ?_, fun cs _ => ?_, fun cs _ => ?_⟩
      · mvcgen [readValue]
      · mvcgen [readItems]
      · mvcgen [readMembers]
  | succ fuel ih =>
      obtain ⟨values, items, members⟩ := ih
      refine ⟨fun cs behind => ?_, fun cs behind => ?_, fun cs behind => ?_⟩
      · mvcgen [readValue, items, members] <;> grind [skipGap_suffix]
      · mvcgen [readItems, values, items] <;> grind [skipGap_suffix]
      · by_cases key : ∃ after, cs = '"' :: after
        · obtain ⟨after, rfl⟩ := key
          mvcgen [readMembers, values, members] <;> grind [skipGap_suffix]
        · rw [readMembers.eq_3 _ _ fun after same => key ⟨after, same⟩]
          mvcgen

/-- A JSON document fails only for an integer with too many digits, which it shows. -/
theorem longNumber_of_read {s : String} {cause : Fault} (failed : read s = .error (.fault cause)) :
    LongNumber s.toList cause := by
  have value := (readers_spec (2 * s.toList.length + 2)).1 (skipGap s.toList)
    (skipGap_suffix s.toList)
  have ends : ⦃⌜True⌝⦄ read s ⦃Ends (fun _ => True) (LongNumber s.toList)⦄ := by
    mvcgen [read, value]
  exact allowed_of_triple ends failed

end PathExpr.Format.Json

import Mathlib
import PathExpr.Config.Basic
import PathExpr.Proofs.Value.Display

/-!
# What becomes of configuration entries

A mapping gives settings within bounds, or it is refused as a configuration.  The
only other end is that of a value with an overlong integer: the refusal would
have to show it, and a name would have to be its text.
-/

namespace PathExpr

open Std.Do

set_option mvcgen.warning false

namespace Config

/-- Refused as a configuration, or for the overlong integer that would have to be shown. -/
def Refused (value : Value) (fault : Fault) : Prop :=
  (∃ key problem, fault = .option key problem) ∨ value.Overlong fault

/-- The result is of this kind, or the value is refused. -/
abbrev Takes {α : Type} (value : Value) (result : α → Prop) : PostCond α (.except Fault .pure) :=
  post⟨fun taken => ⌜result taken⌝, fun fault => ⌜Refused value fault⌝⟩

/-- A value is refused with a message that shows it, if it can be shown. -/
theorem takes_of_refusal {α : Type} (value : Value) (key : String)
    (problem : String → OptionProblem) {result : α → Prop} :
    ⦃⌜True⌝⦄ (do throw (.option key (problem (← value.display))) : Except Fault α)
      ⦃Takes value result⦄ := by
  cases found : value.display with
  | ok shown => exact fun _ => .inl ⟨key, problem shown, rfl⟩
  | error fault => exact fun _ => .inr (Value.display_eq_error found)

theorem takes_shown (value : Value) : ⦃⌜True⌝⦄ value.shown ⦃Takes value fun _ => True⦄ := by
  cases found : value.shown with
  | ok shown => exact fun _ => trivial
  | error fault => exact fun _ => .inr (Value.shown_eq_error found)

theorem readSwitch_spec (key : String) (value : Value) :
    ⦃⌜True⌝⦄ readSwitch key value ⦃Takes value fun _ => True⦄ := by
  cases value with
  | bool b => exact fun _ => trivial
  | _ => exact takes_of_refusal _ key .notSwitch

theorem readLength_spec (key : String) (value : Value) :
    ⦃⌜True⌝⦄ readLength key value ⦃Takes value (· ≤ maxRandLength)⦄ := by
  cases value with
  | int n =>
      simp only [readLength]
      split
      · next within =>
        have bound : n.toNat ≤ maxRandLength := by
          simp only [Bool.and_eq_true, decide_eq_true_eq] at within
          omega
        exact fun _ => bound
      · exact takes_of_refusal _ key (.notLength maxRandLength)
  | _ => exact takes_of_refusal _ key (.notLength maxRandLength)

theorem readName_spec (key : String) (value : Value) :
    ⦃⌜True⌝⦄ readName key value ⦃Takes value fun _ => True⦄ := by
  cases value with
  | text s => exact fun _ => trivial
  | bool b => exact takes_shown _
  | int n => exact takes_shown _
  | float x => exact takes_shown _
  | _ => exact takes_of_refusal _ key .notName

/-- What refuses a part of a value refuses the value. -/
theorem takes_of_part {α : Type} {part whole : Value} {result : α → Prop} {read : Except Fault α}
    (inside : ∀ n, part.HasInteger n → whole.HasInteger n)
    (takes : ⦃⌜True⌝⦄ read ⦃Takes part result⦄) : ⦃⌜True⌝⦄ read ⦃Takes whole result⦄ := by
  cases read with
  | ok taken => exact takes
  | error fault => exact fun _ => (takes trivial).imp_right fun overlong => overlong.of_part inside

theorem unknown_spec (key : String) {whole : Value} {result : Config → Prop} :
    ⦃⌜True⌝⦄ (throw (.option key .unknown) : Except Fault Config) ⦃Takes whole result⦄ :=
  fun _ => .inl ⟨key, .unknown, rfl⟩

/-- The length of random texts stays within its bound. -/
theorem withEntry_spec {config : Config} (within : config.randLength ≤ maxRandLength)
    {key value whole : Value} (keyInside : ∀ n, key.HasInteger n → whole.HasInteger n)
    (valueInside : ∀ n, value.HasInteger n → whole.HasInteger n) :
    ⦃⌜True⌝⦄ config.withEntry (key, value) ⦃Takes whole (·.randLength ≤ maxRandLength)⦄ := by
  have shown := takes_of_part keyInside (takes_shown key)
  have switch := fun key => takes_of_part valueInside (readSwitch_spec key value)
  have length := fun key => takes_of_part valueInside (readLength_spec key value)
  have name := fun key => takes_of_part valueInside (readName_spec key value)
  mvcgen [withEntry, shown, switch, length, name, unknown_spec, -Spec.throw_MonadExcept]

theorem withEntries_spec (entries : List (Value × Value)) {config : Config}
    (within : config.randLength ≤ maxRandLength) {whole : Value}
    (inside : ∀ entry ∈ entries, (∀ n, entry.1.HasInteger n → whole.HasInteger n) ∧
      ∀ n, entry.2.HasInteger n → whole.HasInteger n) :
    ⦃⌜True⌝⦄ config.withEntries entries ⦃Takes whole (·.randLength ≤ maxRandLength)⦄ := by
  induction entries generalizing config with
  | nil => exact fun _ => within
  | cons entry rest ih =>
      obtain ⟨key, value⟩ := entry
      obtain ⟨first, others⟩ := List.forall_mem_cons.mp inside
      have taken := withEntry_spec within first.1 first.2
      mvcgen [withEntries, taken, ih]
      · exact id
      · exact fun _ => others

/-- The settings of a value keep their bound, or the value is refused. -/
theorem ofValue_spec (value : Value) :
    ⦃⌜True⌝⦄ ofValue value ⦃Takes value (·.randLength ≤ maxRandLength)⦄ := by
  have within : default.randLength ≤ maxRandLength := by decide
  have layer : ∀ n, value.opened.HasInteger n → value.HasInteger n :=
    fun n => Value.hasInteger_of_opened
  unfold ofValue
  generalize value.opened = top at layer ⊢
  cases top with
  | null => exact fun _ => within
  | map entries =>
      refine withEntries_spec entries within fun entry member => ⟨fun n inside => ?_,
        fun n inside => ?_⟩
      · exact layer n (.key member inside)
      · exact layer n (.value member inside)
  | _ => exact fun _ => .inl ⟨_, _, rfl⟩

end Config

end PathExpr

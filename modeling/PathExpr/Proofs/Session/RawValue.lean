import PathExpr.Proofs.Value.Display
import PathExpr.RawSequence

/-!
# Values that hold no raw sequence

A raw sequence is taken from any value that can be gone through, except a text
or bytes, and that gives texts only.  Every other value is refused with a
report that shows it.
-/

namespace PathExpr

theorem Value.texts?_eq_some_iff {items : List Value} {texts : List String} :
    Value.texts? items = some texts ↔ items = texts.map .text := by
  induction items generalizing texts with
  | nil => simp [Value.texts?, eq_comm]
  | cons item rest ih =>
      cases texts with
      | nil => cases item <;> simp [Value.texts?]
      | cons first others =>
          cases item with
          | text s =>
              simp only [Value.texts?, Option.map_eq_some_iff, ih, List.map_cons, List.cons.injEq,
                Value.text.injEq]
              constructor
              · rintro ⟨_, same, rfl, rfl⟩
                exact ⟨rfl, same⟩
              · rintro ⟨rfl, same⟩
                exact ⟨others, same, rfl, rfl⟩
          | _ => simp [Value.texts?]

/-- The value is a sequence of texts, of whatever kind. -/
def RawSequence.Holds (value : Value) (texts : List String) : Prop :=
  RawSequence.items? value = some (texts.map .text)

theorem RawSequence.ofValue_eq_ok_iff {value : Value} {texts : List String} :
    RawSequence.ofValue value = .ok texts ↔ RawSequence.Holds value texts := by
  unfold RawSequence.ofValue RawSequence.Holds
  constructor
  · intro found
    split at found
    · next same =>
      cases found
      obtain ⟨items, listed, read⟩ := Option.bind_eq_some_iff.mp same
      rw [listed, Value.texts?_eq_some_iff.mp read]
    · cases found
  · intro listed
    rw [listed, Option.bind_some, Value.texts?_eq_some_iff.mpr rfl]

/-- What holds no sequence is refused with a report that shows it. -/
theorem RawSequence.ofValue_of_not_holds {value : Value}
    (none : ∀ texts, ¬ RawSequence.Holds value texts) (short : value.IntegersShort) :
    ∃ words, RawSequence.ofValue value = .error (.notSequence value words) := by
  obtain ⟨words, shown⟩ := value.exists_display short
  refine ⟨words, ?_⟩
  cases read : RawSequence.ofValue value with
  | ok texts => exact (none texts (RawSequence.ofValue_eq_ok_iff.mp read)).elim
  | error fault =>
      unfold RawSequence.ofValue at read
      split at read
      · cases read
      · rw [← read, Value.sequenceFault, shown]

end PathExpr

import PathExpr.Format.Reading

/-!
# What a reading comes from

A reading that succeeds has succeeded in each of its steps, and one that fails has
failed in one of them.
-/

namespace PathExpr.Format

variable {ε α β : Type}

theorem exists_of_bind_eq_ok {x : Except ε α} {f : α → Except ε β} {b : β}
    (bound : x >>= f = .ok b) : ∃ a, x = .ok a ∧ f a = .ok b := by
  cases x with
  | error e => cases bound
  | ok a => exact ⟨a, rfl, bound⟩

theorem error_of_bind_eq_error {x : Except ε α} {f : α → Except ε β} {e : ε}
    (failed : x >>= f = .error e) : x = .error e ∨ ∃ a, x = .ok a ∧ f a = .error e := by
  cases x with
  | error first =>
      cases failed
      exact .inl rfl
  | ok a => exact .inr ⟨a, rfl, failed⟩

/-- A step that always succeeds does not fail what it comes after. -/
theorem error_of_bind_pure {x : Except ε α} {f : α → β} {e : ε}
    (failed : (x >>= fun a => pure (f a)) = .error e) : x = .error e := by
  obtain first | ⟨a, -, later⟩ := error_of_bind_eq_error failed
  · exact first
  · cases later

/-- A row of readings fails as one of them does. -/
theorem exists_of_mapM_eq_error {f : α → Except ε β} {items : List α} {e : ε}
    (failed : items.mapM f = .error e) : ∃ item ∈ items, f item = .error e := by
  induction items with
  | nil => cases failed
  | cons item rest ih =>
      rw [List.mapM_cons] at failed
      obtain first | ⟨b, -, others⟩ := error_of_bind_eq_error failed
      · exact ⟨item, List.mem_cons_self, first⟩
      · obtain ⟨later, member, same⟩ := ih (error_of_bind_pure others)
        exact ⟨later, List.mem_cons_of_mem item member, same⟩

/-- A step that carries a state along is followed by what comes behind it. -/
theorem run_bind_of_ok {σ : Type} {step : StateT σ (Except ε) α} {next : α → StateT σ (Except ε) β}
    {state later : σ} {a : α} (ran : step state = .ok (a, later)) :
    (step >>= next) state = next a later := by
  show (step state >>= fun result => next result.1 result.2) = _
  rw [ran]
  rfl

theorem run_bind_of_error {σ : Type} {step : StateT σ (Except ε) α}
    {next : α → StateT σ (Except ε) β} {state : σ} {e : ε} (failed : step state = .error e) :
    (step >>= next) state = .error e := by
  show (step state >>= fun result => next result.1 result.2) = _
  rw [failed]
  rfl

theorem exists_of_map_eq_ok {x : Except ε α} {f : α → β} {b : β} (mapped : x.map f = .ok b) :
    ∃ a, x = .ok a ∧ f a = b := by
  cases x with
  | error e => cases mapped
  | ok a => exact ⟨a, rfl, Except.ok.inj mapped⟩

theorem eq_some_of_require {x : Option α} {a : α} (required : require x = .ok a) : x = some a := by
  cases x with
  | none => cases required
  | some b => exact congrArg some (Except.ok.inj required)

end PathExpr.Format

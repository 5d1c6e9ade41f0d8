import PathExpr.Proofs.Resolve.Conduct
import PathExpr.Proofs.Table.Faults

/-!
# Where resolution fails

Resolution has no faults of its own.  Over the built-in tables it ends in a
fault exactly when the last thing that it asks for is an entry whose demand
cannot be met, and everything asked for before that was answered.
-/

namespace PathExpr

open PathExpr.Expr PathExpr.Table

/-! ## Calls that account for a fault -/

/-- The fault that a call to the built-in tables of a machine ends in. -/
def Event.Fails (world : World) : Event → Fault → Prop
  | .lookup .dir ident, fault => (directoryDemand world ident).Fails world fault
  | .lookup .val ident, fault => Overlong ident fault
  | .project ident group, fault => (projectDemand world ident group).Fails world fault
  | _, _ => False

namespace Traced

variable {α β : Type}

/-- A fault at the end is that of the last call, and no other call has one. -/
def Accounts (fails : Event → Fault → Prop) (computation : Traced α) : Prop :=
  match computation.outcome with
  | .ok _ => ∀ call ∈ computation.calls, ∀ fault, ¬ fails call fault
  | .error fault => ∃ before last, computation.calls = before ++ [last] ∧ fails last fault ∧
      ∀ call ∈ before, ∀ other, ¬ fails call other

theorem accounts_of_quiet {fails : Event → Fault → Prop} {computation : Traced α} {value : α}
    (ended : computation.outcome = .ok value) (quiet : computation.calls = []) :
    Accounts fails computation := by
  simp [Accounts, ended, quiet]

/-- A call to what itself calls nothing is the only call. -/
theorem calls_call {event : Event} {lookup : Traced α} (isCall : event.isCall = true)
    (quiet : lookup.calls = []) : (do emit event; lookup : Traced α).calls = [event] := by
  simpa [calls, emit, bind_of_ok, isCall] using quiet

/-- A call accounts for the fault of the lookup that it stands for. -/
theorem accounts_call {fails : Event → Fault → Prop} {event : Event} {lookup : Traced α}
    (isCall : event.isCall = true) (quiet : lookup.calls = [])
    (exact : ∀ fault, lookup.outcome = .error fault ↔ fails event fault) :
    Accounts fails (do emit event; lookup) := by
  have only : (do emit event; lookup : Traced α).calls = [event] := calls_call isCall quiet
  have ended : (do emit event; lookup : Traced α).outcome = lookup.outcome := by
    rw [outcome_bind]
    rfl
  unfold Accounts
  rw [only, ended]
  cases outcome : lookup.outcome with
  | error fault => exact ⟨[], event, rfl, (exact fault).mp outcome, List.forall_mem_nil _⟩
  | ok value =>
      intro call member fault failed
      obtain rfl := List.mem_singleton.mp member
      rw [(exact fault).mpr failed] at outcome
      cases outcome

/-- One computation after another accounts for its fault when both do. -/
theorem Accounts.bind {fails : Event → Fault → Prop} {first : Traced α} {next : α → Traced β}
    (before : Accounts fails first) (after : ∀ value, Accounts fails (next value)) :
    Accounts fails (first >>= next) := by
  unfold Accounts at before
  cases ended : first.outcome with
  | error fault =>
      rw [ended] at before
      rw [bind_of_error ended]
      exact before
  | ok value =>
      rw [ended] at before
      have onward := after value
      have joined : (first >>= next).calls = first.calls ++ (next value).calls := by
        simp [calls, bind_of_ok ended]
      unfold Accounts at onward ⊢
      rw [joined, bind_of_ok ended]
      cases finished : (next value).outcome with
      | error fault =>
          rw [finished] at onward
          obtain ⟨early, last, whole, failed, answered⟩ := onward
          refine ⟨first.calls ++ early, last, by rw [whole, List.append_assoc], failed, ?_⟩
          intro call member
          rcases List.mem_append.mp member with front | behind
          · exact before call front
          · exact answered call behind
      | ok other =>
          rw [finished] at onward
          intro call member
          rcases List.mem_append.mp member with front | behind
          · exact before call front
          · exact onward call behind

/-- Accounting for faults is preserved by the steps of a resolution, when probes do not fail. -/
def Accounts.discipline {fails : Event → Fault → Prop}
    (probes : ∀ path fault, ¬ fails (.probe path) fault) : Discipline where
  Holds := Accounts fails
  pure _ := accounts_of_quiet rfl rfl
  bind := Accounts.bind
  probe path := by
    intro call member fault
    obtain rfl := List.mem_singleton.mp (List.mem_of_mem_filter member)
    exact probes path fault
  remark _ := accounts_of_quiet rfl rfl

end Traced

open Traced

/-! ## Questions -/

namespace Resolver

variable (world : World) (config : Config)

/-- The built-in tables account for their faults. -/
theorem put_accounts (asked : Question) :
    Accounts (Event.Fails world) ((builtIn world config).put asked) := by
  have never : ∀ {value : Option String} {event : Event},
      (∀ fault, ¬ event.Fails world fault) →
        ∀ fault, (pure value : Traced (Option String)).outcome = .error fault ↔
          event.Fails world fault := by
    intro value event unfailing fault
    simp [unfailing fault]
  cases asked with
  | project group ident =>
      exact accounts_call rfl rfl (decides_projectEntry world ident group)
  | plain ns single ident =>
      cases ns with
      | proj => exact (single rfl).elim
      | env => exact accounts_call rfl rfl (never fun _ failed => failed)
      | const => exact accounts_call rfl rfl (never fun _ failed => failed)
      | val => exact accounts_call rfl rfl fun fault => produced_eq_error_iff world
      | dir =>
          have governed := governs_directory world config.pkgName (some config.randLength) ident
          exact accounts_call rfl governed.quiet governed.decides

theorem pathOf_accounts (raw : List String) :
    Accounts (Event.Fails world) ((builtIn world config).pathOf raw) :=
  @pathOf_holds (Accounts.discipline fun _ _ failed => failed) (builtIn world config)
    (fun asked _ => put_accounts world config asked) raw

variable {world}

theorem fails_unique {call : Event} {fault other : Fault} (failed : call.Fails world fault)
    (failedSo : call.Fails world other) : fault = other := by
  -- Both faults are the outcome of the lookup that the call stands for.
  have same : ∀ {outcome : Except Fault (Option String)}, outcome = .error fault →
      outcome = .error other → fault = other := by
    rintro outcome first second
    rw [first] at second
    cases second
    rfl
  cases call with
  | reference segment => exact failed.elim
  | probe path => exact failed.elim
  | note remark => exact failed.elim
  | project ident group =>
      have decides := decides_projectEntry world ident group
      exact same ((decides fault).mpr failed) ((decides other).mpr failedSo)
  | lookup ns ident =>
      cases ns with
      | env | const | proj => exact failed.elim
      | dir =>
          have decides := (governs_directory world "" none ident).decides
          exact same ((decides fault).mpr failed) ((decides other).mpr failedSo)
      | val =>
          have decides : ∀ fault,
              produced? world none ident = .error fault ↔ Overlong ident fault :=
            fun _ => produced_eq_error_iff world
          exact same ((decides fault).mpr failed) ((decides other).mpr failedSo)

theorem kind_of_demand {demand : Demand} {fault : Fault} (failed : demand.Fails world fault) :
    fault = .homeUnknown ∨ ∃ flaw, fault = .undecodable flaw := by
  rcases failed with ⟨rfl, -⟩ | ⟨-, -, -, flaw, -, -, -, rfl⟩
  · exact Or.inl rfl
  · exact Or.inr ⟨flaw, rfl⟩

/-- The built-in tables know three kinds of faults. -/
theorem kind_of_fails {call : Event} {fault : Fault} (failed : call.Fails world fault) :
    fault = .homeUnknown ∨ (∃ flaw, fault = .undecodable flaw) ∨
      ∃ digits, fault = .tooManyDigits (some digits) := by
  have ofDemand : ∀ {demand : Demand}, demand.Fails world fault →
      fault = .homeUnknown ∨ (∃ flaw, fault = .undecodable flaw) ∨
        ∃ digits, fault = .tooManyDigits (some digits) := by
    intro demand unmet
    exact (kind_of_demand unmet).imp_right Or.inl
  cases call with
  | reference segment => exact failed.elim
  | probe path => exact failed.elim
  | note remark => exact failed.elim
  | project ident group => exact ofDemand failed
  | lookup ns ident =>
      cases ns with
      | env | const | proj => exact failed.elim
      | dir => exact ofDemand failed
      | val =>
          obtain ⟨digits, -, -, -, rfl⟩ := failed
          exact Or.inr (Or.inr ⟨digits.length, rfl⟩)

variable (world)

/--
Resolution over the built-in tables has no faults of its own.  It ends in a fault
exactly when the last call asks for an entry that fails so; calls before the
last one never fail.  The faults are an unknown home, a file of user directories
that is not UTF-8, and a length with too many digits.
-/
theorem pathOf_fails_iff (raw : List String) (fault : Fault) :
    let run := (builtIn world config).pathOf raw
    (run.outcome = .error fault ↔
      ∃ before last, run.calls = before ++ [last] ∧ last.Fails world fault) ∧
    (∀ before last, run.calls = before ++ [last] →
      ∀ call ∈ before, ∀ other, ¬ call.Fails world other) ∧
    (run.outcome = .error fault →
      fault = .homeUnknown ∨ (∃ flaw, fault = .undecodable flaw) ∨
        ∃ digits, fault = .tooManyDigits (some digits)) := by
  intro run
  have accounts : Accounts (Event.Fails world) run := pathOf_accounts world config raw
  unfold Accounts at accounts
  cases ended : run.outcome with
  | ok path =>
      rw [ended] at accounts
      refine ⟨⟨nofun, ?_⟩, ?_, nofun⟩
      · rintro ⟨before, last, whole, failed⟩
        exact (accounts last (by simp [whole]) fault failed).elim
      · intro before last whole call member
        exact accounts call (by simp [whole, member])
  | error other =>
      rw [ended] at accounts
      obtain ⟨early, final, called, failed, answered⟩ := accounts
      refine ⟨⟨?_, ?_⟩, ?_, ?_⟩
      · intro same
        cases same
        exact ⟨early, final, called, failed⟩
      · rintro ⟨before, last, whole, failedSo⟩
        obtain ⟨-, ends⟩ := List.append_inj' (called.symm.trans whole) rfl
        obtain rfl : final = last := by
          simpa using ends
        rw [fails_unique failed failedSo]
      · intro before last whole call member
        obtain ⟨rfl, -⟩ := List.append_inj' (called.symm.trans whole) rfl
        exact answered call member
      · intro same
        cases same
        exact kind_of_fails failed

/-- A variable that holds a path in the home of an unknown user ends a resolution in a fault. -/
theorem builtIn_ends_in_fault :
    ¬ ∀ (world : World) (config : Config) (raw : List String),
      ∃ path, ((builtIn world config).pathOf raw).outcome = .ok path := by
  intro never
  let machine : World :=
    { env := [("HOME", "/home/u"), ("XDG_RUNTIME_DIR", "~nobody/run")], existing := [], files := [],
      ownHome := none, users := [], platform := "linux", family := "posix", android := false,
      machine := "x86_64", tempDir := "/tmp", tempWritable := true, draw := fun _ => 0,
      outgrows := fun _ _ => false }
  obtain ⟨path, resolved⟩ := never machine Config.default ["$dir: runtime"]
  have failed : ((builtIn machine Config.default).pathOf ["$dir: runtime"]).outcome =
      .error .homeUnknown := by
    rfl
  rw [failed] at resolved
  cases resolved

end Resolver

end PathExpr

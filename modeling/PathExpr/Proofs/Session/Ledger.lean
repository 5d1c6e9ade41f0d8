import Mathlib.Logic.Function.Basic
import PathExpr.Proofs.Session.RawValue
import PathExpr.Session

/-!
# The last resolution of a specification

A specification keeps the path of its last resolution while its raw sequence
and the machine go on changing, so that the path says nothing about either of
them as they are now.  What it does say is told by a ledger that no session
keeps: for every name, the machine and the raw sequence of the last resolution
that succeeded.  A step of a session and an entry in the ledger go together, and
by induction the path of a specification is, after any run, the path that its
entry resolves to.
-/

namespace PathExpr

/-! ## Names -/

namespace Session

variable (session : Session)

@[simp]
theorem spec?_bind_self (name : String) (spec : PathSpec) :
    (session.bind name spec).spec? name = some spec := by
  simp [spec?, bind]

theorem spec?_bind_of_ne {name other : String} (different : other ≠ name) (spec : PathSpec) :
    (session.bind name spec).spec? other = session.spec? other := by
  have unequal : (other == name) = false := by
    simpa using different
  simp only [spec?, bind, List.lookup_cons, unequal]
  induction session.specs with
  | nil => rfl
  | cons entry rest ih =>
      obtain ⟨key, value⟩ := entry
      by_cases same : key = name
      · subst same
        simp [ih, List.lookup_cons, unequal]
      · by_cases hit : other = key
        · subst hit
          simp [same]
        · have missed : (other == key) = false := by
            simpa using hit
          simp [same, List.lookup_cons, missed, ih]

theorem spec?_bind (name other : String) (spec : PathSpec) :
    (session.bind name spec).spec? other =
      if other = name then some spec else session.spec? other := by
  by_cases same : other = name
  · subst same
    simp
  · simp [spec?_bind_of_ne session same, same]

@[simp]
theorem world_bind (name : String) (spec : PathSpec) :
    (session.bind name spec).world = session.world := by
  rfl

/-- A step that fails leaves the session as it was. -/
theorem advance_of_error {step : Step} {fault : Fault} (failed : session.step step = .error fault) :
    session.advance step = (session, .error fault) := by
  simp [advance, failed]

theorem advance_of_ok {step : Step} {next : Session} {answer : Answer}
    (done : session.step step = .ok (next, answer)) :
    session.advance step = (next, .ok answer) := by
  simp [advance, done]

end Session

/-! ## Resolutions -/

/-- A resolution that succeeded: the machine and the raw sequence at that time. -/
structure Resolution where
  world : World
  raw : List String

/-- The path of a specification is what a resolution gave. -/
def PathSpec.FoundBy (spec : PathSpec) (resolution : Resolution) : Prop :=
  ((spec.resolver resolution.world).pathOf resolution.raw).outcome = .ok spec.path

theorem PathSpec.outcome_resolve_eq_ok_iff {spec next : PathSpec} {world : World} :
    (spec.resolve world).outcome = .ok next ↔
      ∃ path, ((spec.resolver world).pathOf spec.raw).outcome = .ok path ∧
        next = { spec with path } := by
  rw [resolve, Traced.outcome_bind]
  cases ((spec.resolver world).pathOf spec.raw).outcome with
  | error fault => simp [Bind.bind, Except.bind]
  | ok path => simp [Bind.bind, Except.bind, eq_comm]

theorem PathSpec.outcome_resolve_of_error {spec : PathSpec} {world : World} {fault : Fault}
    (failed : ((spec.resolver world).pathOf spec.raw).outcome = .error fault) :
    (spec.resolve world).outcome = .error fault := by
  rw [resolve, Traced.outcome_bind, failed]
  rfl

/-- A resolution changes the path only, to what it has just found. -/
theorem PathSpec.foundBy_of_resolve {spec next : PathSpec} {world : World}
    (resolved : (spec.resolve world).outcome = .ok next) :
    next.raw = spec.raw ∧ next.FoundBy ⟨world, spec.raw⟩ := by
  obtain ⟨path, found, rfl⟩ := PathSpec.outcome_resolve_eq_ok_iff.mp resolved
  exact ⟨rfl, found⟩

/-- For each name the last resolution that succeeded, if there was one. -/
abbrev Ledger := String → Option Resolution

/-- The ledger before anything was resolved. -/
def Ledger.empty : Ledger :=
  fun _ => none

/-- What a step that succeeds writes into the ledger, and under which name. -/
def Session.entry? (session : Session) : Step → Option (String × Option Resolution)
  | .make name value _ _ resolved =>
      match RawSequence.ofValue value with
      | .ok raw => some (name, if resolved then some ⟨session.world, raw⟩ else none)
      | .error _ => none
  | .change name .resolve =>
      (session.spec? name).map fun spec => (name, some ⟨session.world, spec.raw⟩)
  | _ => none

/-- The ledger after a step; a step that fails writes nothing. -/
def Ledger.record (ledger : Ledger) (session : Session) (step : Step) : Ledger :=
  match (session.advance step).2, session.entry? step with
  | .ok _, some (name, entry) => Function.update ledger name entry
  | _, _ => ledger

/-- The ledger after a list of steps. -/
def Ledger.after (ledger : Ledger) (session : Session) : List Step → Ledger
  | [] => ledger
  | step :: rest => (ledger.record session step).after (session.advance step).1 rest

/-- Every specification has the path that the ledger says, and none where it says nothing. -/
def Ledger.Describes (ledger : Ledger) (session : Session) : Prop :=
  ∀ name spec, session.spec? name = some spec →
    match ledger name with
    | none => spec.path = none
    | some resolution => spec.FoundBy resolution

/-! ## Steps -/

namespace Ledger.Describes

variable {ledger : Ledger} {session : Session}

/-- A step that leaves the specifications alone leaves the ledger right. -/
theorem of_same_specs (described : ledger.Describes session) {next : Session}
    (same : next.specs = session.specs) : ledger.Describes next := by
  intro name spec found
  refine described name spec ?_
  rwa [Session.spec?, ← same]

/-- Binding a specification whose path its new entry says. -/
theorem bind_update (described : ledger.Describes session) {name : String} {spec : PathSpec}
    {entry : Option Resolution}
    (right : match entry with
      | none => spec.path = none
      | some resolution => spec.FoundBy resolution) :
    Ledger.Describes (Function.update ledger name entry) (session.bind name spec) := by
  intro other found bound
  rw [Session.spec?_bind] at bound
  by_cases same : other = name
  · subst same
    rw [if_pos rfl, Option.some.injEq] at bound
    subst bound
    simpa using right
  · rw [if_neg same] at bound
    rw [Function.update_of_ne same]
    exact described other found bound

/-- Changing the raw sequence alone keeps what the ledger says about the path. -/
theorem bind_raw (described : ledger.Describes session) {name : String} {spec : PathSpec}
    (known : session.spec? name = some spec) (raw : List String) :
    ledger.Describes (session.bind name { spec with raw }) := by
  have right := described name spec known
  have kept : Ledger.Describes (Function.update ledger name (ledger name))
      (session.bind name { spec with raw }) := described.bind_update right
  rwa [Function.update_eq_self] at kept

end Ledger.Describes

namespace Session

/-- Every change but a resolution is one of the raw sequence alone. -/
theorem changed_eq_ok {world : World} {spec next : PathSpec} {change : Change} {answer : Answer}
    (done : changed world spec change = .ok (next, answer)) :
    (change = .resolve ∧ (spec.resolve world).outcome = .ok next) ∨
      (change ≠ .resolve ∧ ∃ raw, next = { spec with raw }) := by
  cases change with
  | setRaw value =>
      right
      refine ⟨nofun, ?_⟩
      cases read : RawSequence.ofValue value with
      | error fault => simp [changed, PathSpec.withRaw, read, Bind.bind, Except.bind] at done
      | ok raw =>
          simp only [changed, PathSpec.withRaw, read, Bind.bind, Except.bind, Pure.pure,
            Except.pure, Except.ok.injEq, Prod.mk.injEq] at done
          exact ⟨raw, done.1.symm⟩
  | push item =>
      right
      simp only [changed, Except.ok.injEq, Prod.mk.injEq] at done
      exact ⟨nofun, spec.raw ++ [item], done.1.symm⟩
  | clear =>
      right
      simp only [changed, Except.ok.injEq, Prod.mk.injEq] at done
      exact ⟨nofun, [], done.1.symm⟩
  | resolve =>
      left
      refine ⟨rfl, ?_⟩
      cases resolved : (spec.resolve world).outcome with
      | error fault => simp [changed, resolved, Bind.bind, Except.bind] at done
      | ok found =>
          simp only [changed, resolved, Bind.bind, Except.bind, Pure.pure, Except.pure,
            Except.ok.injEq, Prod.mk.injEq] at done
          rw [done.1]

/-- A change that succeeds binds the changed specification under its name. -/
theorem step_change_eq_ok {session next : Session} {name : String} {change : Change}
    {spec : PathSpec} {answer : Answer} (known : session.spec? name = some spec)
    (done : session.step (.change name change) = .ok (next, answer)) :
    ∃ changed, Session.changed session.world spec change = .ok (changed, answer) ∧
      next = session.bind name changed := by
  simp only [step, known] at done
  cases result : Session.changed session.world spec change with
  | error fault => simp [result, Bind.bind, Except.bind] at done
  | ok pair =>
      obtain ⟨spec', answer'⟩ := pair
      simp only [result, Bind.bind, Except.bind, Pure.pure, Except.pure, Except.ok.injEq,
        Prod.mk.injEq] at done
      obtain ⟨rfl, rfl⟩ := done
      exact ⟨spec', rfl, rfl⟩

/-- What a successful making binds under its name. -/
theorem step_make_eq_ok {session next : Session} {name : String} {value : Value}
    {config : Config} {providers : World → Providers} {resolved : Bool} {answer : Answer}
    (done : session.step (.make name value config providers resolved) = .ok (next, answer)) :
    ∃ raw spec, RawSequence.ofValue value = .ok raw ∧ next = session.bind name spec ∧
      (if resolved then
        ((PathSpec.ofRaw raw config providers).resolve session.world).outcome = .ok spec
      else spec = PathSpec.ofRaw raw config providers) := by
  simp only [step] at done
  cases read : RawSequence.ofValue value with
  | error fault => simp [read, Bind.bind, Except.bind] at done
  | ok raw =>
      simp only [read, Bind.bind, Except.bind] at done
      cases resolved with
      | false =>
          simp only [Bool.false_eq_true, if_false, Pure.pure, Except.pure, Except.ok.injEq,
            Prod.mk.injEq] at done
          exact ⟨raw, _, rfl, done.1.symm, rfl⟩
      | true =>
          simp only [if_true] at done
          cases found : ((PathSpec.ofRaw raw config providers).resolve session.world).outcome with
          | error fault => simp [found] at done
          | ok spec =>
              simp only [found, Pure.pure, Except.pure, Except.ok.injEq, Prod.mk.injEq] at done
              exact ⟨raw, spec, rfl, done.1.symm, found⟩

/-- A question changes nothing. -/
theorem step_ask_eq_ok {session next : Session} {name : String} {query : Query} {answer : Answer}
    (done : session.step (.ask name query) = .ok (next, answer)) : next = session := by
  simp only [step] at done
  split at done
  · simp only [Except.ok.injEq, Prod.mk.injEq] at done
    exact done.1.symm
  · next spec known =>
    cases result : session.answer spec query with
    | error fault => simp [result, Bind.bind, Except.bind] at done
    | ok answer' =>
        simp only [result, Bind.bind, Except.bind, Pure.pure, Except.pure, Except.ok.injEq,
          Prod.mk.injEq] at done
        exact done.1.symm

end Session

namespace Ledger.Describes

variable {ledger : Ledger} {session : Session}

/-- A step and its entry keep the ledger right. -/
theorem advance (described : ledger.Describes session) (step : Step) :
    (ledger.record session step).Describes (session.advance step).1 := by
  cases result : session.step step with
  | error fault => simpa [record, session.advance_of_error result] using described
  | ok pair =>
      obtain ⟨next, answer⟩ := pair
      have advanced := session.advance_of_ok result
      rw [record, advanced]
      cases step with
      | make name value config providers resolved =>
          obtain ⟨raw, spec, read, rfl, found⟩ := Session.step_make_eq_ok result
          simp only [Session.entry?, read]
          refine described.bind_update ?_
          cases resolved with
          | false =>
              obtain rfl : spec = PathSpec.ofRaw raw config providers := found
              rfl
          | true => exact (PathSpec.foundBy_of_resolve found).2
      | change name change =>
          cases known : session.spec? name with
          | none =>
              have same : next = session := by
                simp only [Session.step, known, Except.ok.injEq, Prod.mk.injEq] at result
                exact result.1.symm
              subst same
              cases change <;> simpa [Session.entry?, known] using described
          | some spec =>
              obtain ⟨spec', done, rfl⟩ := Session.step_change_eq_ok known result
              rcases Session.changed_eq_ok done with ⟨rfl, found⟩ | ⟨other, raw, rfl⟩
              · simp only [Session.entry?, known, Option.map_some]
                exact described.bind_update (PathSpec.foundBy_of_resolve found).2
              · have silent : session.entry? (.change name change) = none := by
                  cases change with
                  | resolve => exact (other rfl).elim
                  | setRaw | push | clear => rfl
                rw [silent]
                exact described.bind_raw known raw
      | ask name query =>
          obtain rfl := Session.step_ask_eq_ok result
          exact described
      | setVariable name value =>
          cases result
          exact described.of_same_specs rfl
      | create path =>
          cases result
          exact described.of_same_specs rfl
      | remove path =>
          cases result
          exact described.of_same_specs rfl

/-- A run and its entries keep the ledger right. -/
theorem run (described : ledger.Describes session) (steps : List Step) :
    (ledger.after session steps).Describes (session.run steps) := by
  induction steps generalizing ledger session with
  | nil => exact described
  | cons step rest ih => exact ih (described.advance step)

/-- Nothing is resolved before the first step. -/
theorem start (world : World) : Ledger.empty.Describes (Session.start world) := by
  intro name spec found
  cases found

end Ledger.Describes

end PathExpr

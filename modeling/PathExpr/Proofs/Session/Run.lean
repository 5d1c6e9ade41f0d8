import PathExpr.Proofs.Session.Ledger
import PathExpr.Proofs.Table.Bases

/-!
# Runs of a session

After any run, whatever was done to the specifications and to the machine, and
whatever of it failed, a session is sound: every path is explained by the
ledger, and every further step changes what it may change and nothing else.
-/

namespace PathExpr

/-! ## Further steps -/

namespace Session

variable (session : Session)

theorem step_change {name : String} {spec : PathSpec} (known : session.spec? name = some spec)
    (change : Change) :
    session.step (.change name change) = do
      let (spec, answer) ← changed session.world spec change
      return (session.bind name spec, answer) := by
  simp [step, known]

theorem step_ask {name : String} {spec : PathSpec} (known : session.spec? name = some spec)
    (query : Query) :
    session.step (.ask name query) = return (session, ← session.answer spec query) := by
  simp [step, known]

/-- A change that gives a specification another raw sequence. -/
theorem advance_change_raw {name : String} {spec : PathSpec} {change : Change} {raw : List String}
    (known : session.spec? name = some spec)
    (done : changed session.world spec change = .ok ({ spec with raw }, .done)) :
    session.advance (.change name change) = (session.bind name { spec with raw }, .ok .done) := by
  refine session.advance_of_ok ?_
  rw [session.step_change known, done]
  rfl

theorem advance_change_error {name : String} {spec : PathSpec} {change : Change} {fault : Fault}
    (known : session.spec? name = some spec)
    (failed : changed session.world spec change = .error fault) :
    session.advance (.change name change) = (session, .error fault) := by
  refine session.advance_of_error ?_
  rw [session.step_change known, failed]
  rfl

theorem advance_ask_fst (name : String) (query : Query) :
    (session.advance (.ask name query)).1 = session := by
  cases result : session.step (.ask name query) with
  | error fault => rw [session.advance_of_error result]
  | ok pair => rw [session.advance_of_ok result, step_ask_eq_ok result]

theorem advance_ask_snd {name : String} {spec : PathSpec} (known : session.spec? name = some spec)
    (query : Query) : (session.advance (.ask name query)).2 = session.answer spec query := by
  cases result : session.answer spec query with
  | error fault =>
      have failed : session.step (.ask name query) = .error fault := by
        rw [session.step_ask known, result]
        rfl
      rw [session.advance_of_error failed]
  | ok answer =>
      have done : session.step (.ask name query) = .ok (session, answer) := by
        rw [session.step_ask known, result]
        rfl
      rw [session.advance_of_ok done]

/-! ## Soundness -/

/-- What holds of a session and the ledger of its past, with regard to its next step. -/
structure Sound (ledger : Ledger) : Prop where
  /-- Without a successful resolution there is no path. -/
  unresolved : ∀ name spec, session.spec? name = some spec → ledger name = none →
    spec.path = none
  /-- The path is what the last successful resolution found in its raw sequence and machine. -/
  resolved : ∀ name spec resolution, session.spec? name = some spec →
    ledger name = some resolution →
      ((spec.resolver resolution.world).pathOf resolution.raw).outcome = .ok spec.path
  /-- One more text goes to the end of the raw sequence, and nothing else changes. -/
  push : ∀ name spec item, session.spec? name = some spec →
    session.advance (.change name (.push item)) =
      (session.bind name { spec with raw := spec.raw ++ [item] }, .ok .done)
  /-- Clearing empties the raw sequence, and nothing else changes. -/
  clear : ∀ name spec, session.spec? name = some spec →
    session.advance (.change name .clear) = (session.bind name { spec with raw := [] }, .ok .done)
  /-- A sequence of texts becomes the raw sequence, and nothing else changes. -/
  setRaw : ∀ name spec value texts, session.spec? name = some spec →
    RawSequence.Holds value texts →
      session.advance (.change name (.setRaw value)) =
        (session.bind name { spec with raw := texts }, .ok .done)
  /-- Any other value is refused, and nothing changes. -/
  refusesRaw : ∀ name spec value, session.spec? name = some spec →
    (∀ texts, ¬ RawSequence.Holds value texts) → value.IntegersShort →
      ∃ fault, fault.kind = .sequence ∧
        session.advance (.change name (.setRaw value)) = (session, .error fault)
  /-- A specification is made without a path. -/
  makes : ∀ name value texts config providers, RawSequence.Holds value texts →
    session.advance (.make name value config providers false) =
      (session.bind name (.ofRaw texts config providers), .ok .done)
  /-- A specification that is made to be resolved but cannot be is not made. -/
  makeFails : ∀ name value texts config providers fault, RawSequence.Holds value texts →
    (((PathSpec.ofRaw texts config providers).resolver session.world).pathOf texts).outcome =
      .error fault →
        session.advance (.make name value config providers true) = (session, .error fault)
  /-- Nothing is made of any other value. -/
  refusesMake : ∀ name value config providers resolved,
    (∀ texts, ¬ RawSequence.Holds value texts) → value.IntegersShort →
      ∃ fault, fault.kind = .sequence ∧
        session.advance (.make name value config providers resolved) = (session, .error fault)
  /-- A resolution that succeeds changes the path and nothing else. -/
  resolves : ∀ name spec path, session.spec? name = some spec →
    ((spec.resolver session.world).pathOf spec.raw).outcome = .ok path →
      session.advance (.change name .resolve) =
        (session.bind name { spec with path }, .ok (.flag true))
  /-- A resolution that fails changes nothing. -/
  resolveFails : ∀ name spec fault, session.spec? name = some spec →
    ((spec.resolver session.world).pathOf spec.raw).outcome = .error fault →
      session.advance (.change name .resolve) = (session, .error fault)
  /-- The machine changes without any specification. -/
  machine : ∀ step, (∃ name value, step = .setVariable name value) ∨
    (∃ path, step = .create path ∨ step = .remove path) →
      (session.advance step).1.specs = session.specs
  /-- Whatever is asked, nothing changes. -/
  asks : ∀ name query, (session.advance (.ask name query)).1 = session
  /-- Asking for the path, or for what lies below it, fails where there is none. -/
  asksUnresolved : ∀ name spec query, session.spec? name = some spec → spec.path = none →
    (query = .path ∨ ∃ text, query = .child text) →
      ∃ fault, fault.kind = .value ∧ (session.advance (.ask name query)).2 = .error fault
  /-- Where there is one, it is answered. -/
  asksResolved : ∀ name spec path, session.spec? name = some spec → spec.path = some path →
    (session.advance (.ask name .path)).2 = .ok (.text path.text) ∧
      ∀ text, (session.advance (.ask name (.child text))).2 = .ok (.text (path.child text).text)

variable {session}

/-- A session is sound as soon as the ledger is right. -/
theorem sound_of_describes {ledger : Ledger} (described : ledger.Describes session) :
    session.Sound ledger where
  unresolved name spec known blank := by
    simpa [blank] using described name spec known
  resolved name spec resolution known entry := by
    simpa [entry, PathSpec.FoundBy] using described name spec known
  push name spec item known := session.advance_change_raw known rfl
  clear name spec known := session.advance_change_raw known rfl
  setRaw name spec value texts known holds := by
    refine session.advance_change_raw known ?_
    simp only [changed, PathSpec.withRaw, RawSequence.ofValue_eq_ok_iff.mpr holds]
    rfl
  refusesRaw name spec value known none short := by
    obtain ⟨words, refused⟩ := RawSequence.ofValue_of_not_holds none short
    refine ⟨.notSequence value words, rfl, session.advance_change_error known ?_⟩
    simp only [changed, PathSpec.withRaw, refused]
    rfl
  makes name value texts config providers holds := by
    refine session.advance_of_ok ?_
    simp only [step, RawSequence.ofValue_eq_ok_iff.mpr holds]
    rfl
  makeFails name value texts config providers fault holds failed := by
    have unresolved :
        ((PathSpec.ofRaw texts config providers).resolve session.world).outcome = .error fault :=
      PathSpec.outcome_resolve_of_error failed
    refine session.advance_of_error ?_
    simp only [step, RawSequence.ofValue_eq_ok_iff.mpr holds, if_true, Bind.bind, Except.bind,
      unresolved]
  refusesMake name value config providers resolved none short := by
    obtain ⟨words, refused⟩ := RawSequence.ofValue_of_not_holds none short
    refine ⟨.notSequence value words, rfl, session.advance_of_error ?_⟩
    simp only [step, refused]
    rfl
  resolves name spec path known found := by
    have resolved : (spec.resolve session.world).outcome = .ok { spec with path } :=
      PathSpec.outcome_resolve_eq_ok_iff.mpr ⟨path, found, rfl⟩
    refine session.advance_of_ok ?_
    rw [session.step_change known, changed, resolved]
    rfl
  resolveFails name spec fault known failed := by
    refine session.advance_change_error known ?_
    rw [changed, PathSpec.outcome_resolve_of_error failed]
    rfl
  machine step outside := by
    rcases outside with ⟨name, value, rfl⟩ | ⟨path, rfl | rfl⟩
    · rfl
    · rfl
    · rfl
  asks name query := session.advance_ask_fst name query
  asksUnresolved name spec query known missing below := by
    refine ⟨.unresolved spec.raw, rfl, ?_⟩
    rw [session.advance_ask_snd known]
    rcases below with rfl | ⟨text, rfl⟩
    · simp only [answer, PathSpec.requirePath, missing]
      rfl
    · simp only [answer, PathSpec.requirePath, missing]
      rfl
  asksResolved name spec path known found := by
    refine ⟨?_, fun text => ?_⟩
    · rw [session.advance_ask_snd known]
      simp only [answer, PathSpec.requirePath, found]
      rfl
    · rw [session.advance_ask_snd known]
      simp only [answer, PathSpec.requirePath, found]
      rfl

/--
However a session is used, it stays sound: paths come from the last successful
resolutions alone, raw sequences change only as they are told to, and what fails
or only asks changes nothing.
-/
theorem run_sound (world : World) (steps : List Step) :
    ((start world).run steps).Sound (Ledger.empty.after (start world) steps) :=
  sound_of_describes ((Ledger.Describes.start world).run steps)

/--
A variable is set and a text pushed behind the resolution, and a value refused:
the path is the old one, and the next resolution gives another.
-/
theorem run_sound_behind_changes :
    let world := (World.withHome "linux").setVariable "D" (some "/x")
    let raw : Value := .list [.text "$env: d", .text "a"]
    let steps : List Step :=
      [.make "p" raw Config.default (fun world => .builtIn world Config.default) true,
        .setVariable "D" (some "/y"), .change "p" (.push "b"), .change "p" (.setRaw (.int 3))]
    let session := (start world).run steps
    let ledger := Ledger.empty.after (start world) steps
    session.Sound ledger ∧
      (session.spec? "p").map (·.raw) = some ["$env: d", "a", "b"] ∧
      (ledger "p").map (·.raw) = some ["$env: d", "a"] ∧
      (session.spec? "p").map (·.display) = some "/x/a" ∧
      ((session.advance (.change "p" .resolve)).1.spec? "p").map (·.display) = some "/y/a/b" := by
  intro world raw steps session ledger
  refine ⟨run_sound world steps, ?_, ?_, ?_, ?_⟩
  all_goals
    decide +kernel

end Session

end PathExpr

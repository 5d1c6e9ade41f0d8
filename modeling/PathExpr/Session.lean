import PathExpr.PathSpec

/-!
# Sessions

Named specifications on a machine that changes.  A step either asks something,
which changes nothing, or it changes one specification or the machine; a step
that fails leaves all as it was.
-/

namespace PathExpr

/-- Something asked about a specification. -/
inductive Query where
  | raw
  | length
  | isResolved
  | display
  | pathExists
  | path
  | describe
  /-- The path with a text below it. -/
  | child (name : String)
  /-- Whether the specification of another name is the same; a name without one is not. -/
  | same (other : String)
  /-- The raw sequence as a document. -/
  | document (format : Option String) (pretty : Bool)
  deriving Repr, DecidableEq

/-- A change of a specification. -/
inductive Change where
  | setRaw (value : Value)
  | push (item : String)
  | clear
  | resolve

/-- A step of a session. -/
inductive Step where
  /-- Makes a specification, and resolves it where that is wished for. -/
  | make (name : String) (raw : Value) (config : Config) (providers : World → Providers)
      (resolved : Bool)
  | change (name : String) (change : Change)
  | ask (name : String) (query : Query)
  | setVariable (name : String) (value : Option String)
  | create (path : String)
  | remove (path : String)

/-- The answer to a step. -/
inductive Answer where
  | done
  | flag (value : Bool)
  | number (value : Nat)
  | text (value : String)
  | texts (value : List String)
  deriving Repr, DecidableEq

/-- A machine and the specifications on it. -/
structure Session where
  world : World
  specs : List (String × PathSpec)

namespace Session

/-- A session without specifications. -/
def start (world : World) : Session := ⟨world, []⟩

/-- The specification of a name. -/
def spec? (session : Session) (name : String) : Option PathSpec :=
  session.specs.lookup name

/-- The session with a specification under a name. -/
def bind (session : Session) (name : String) (spec : PathSpec) : Session :=
  { session with
    specs := (name, spec) :: session.specs.filter fun entry => entry.1 != name }

/-- A changed specification and the answer to the change. -/
def changed (world : World) (spec : PathSpec) : Change → Except Fault (PathSpec × Answer)
  | .setRaw value => return (← spec.withRaw value, .done)
  | .push item => .ok (spec.push item, .done)
  | .clear => .ok (spec.clear, .done)
  | .resolve => return (← (spec.resolve world).outcome, .flag true)

/-- The answer to a question about a specification. -/
def answer (session : Session) (spec : PathSpec) : Query → Except Fault Answer
  | .raw => .ok (.texts spec.raw)
  | .length => .ok (.number spec.raw.length)
  | .isResolved => .ok (.flag spec.path.isSome)
  | .display => .ok (.text spec.display)
  | .pathExists => .ok (.flag (spec.pathExists session.world))
  | .path => return .text (← spec.requirePath).text
  | .describe => .ok (.text spec.describe)
  | .child name => return .text ((← spec.requirePath).child name).text
  | .same other => .ok (.flag ((session.spec? other).any spec.same))
  | .document format pretty => return .text (← RawSequence.write spec.raw format pretty)

/-- The session after a step, and the answer to it. -/
def step (session : Session) : Step → Except Fault (Session × Answer)
  | .make name raw config providers resolved => do
    let spec := PathSpec.ofRaw (← RawSequence.ofValue raw) config providers
    let spec ← if resolved then (spec.resolve session.world).outcome else pure spec
    return (session.bind name spec, .done)
  | .change name change =>
    match session.spec? name with
    | none => .ok (session, .done)
    | some spec => do
      let (spec, answer) ← changed session.world spec change
      return (session.bind name spec, answer)
  | .ask name query =>
    match session.spec? name with
    | none => .ok (session, .done)
    | some spec => return (session, ← session.answer spec query)
  | .setVariable name value =>
    .ok ({ session with world := session.world.setVariable name value }, .done)
  | .create path => .ok ({ session with world := session.world.create path }, .done)
  | .remove path => .ok ({ session with world := session.world.remove path }, .done)

/-- The session after a step, unchanged by one that fails, and the outcome of the step. -/
def advance (session : Session) (step : Step) : Session × Except Fault Answer :=
  match session.step step with
  | .ok (next, answer) => (next, .ok answer)
  | .error fault => (session, .error fault)

/-- The session after a list of steps. -/
def run (session : Session) (steps : List Step) : Session :=
  steps.foldl (fun session step => (session.advance step).1) session

end Session

end PathExpr

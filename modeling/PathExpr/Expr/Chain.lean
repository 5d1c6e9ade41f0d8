import PathExpr.Expr.Reference
import PathExpr.Traced

/-!
# Chains of alternatives

A chain is a list of alternatives with question marks between them.  It is
folded from the left: the first alternative with a value is taken.  An empty
piece, which a doubled question mark leaves behind, asks for more: the value
held so far must also exist as a path, or it is dropped.
-/

namespace PathExpr.Expr

open PathExpr.Text

/-- How a fold goes on after a step. -/
inductive Flow where
  /-- The next piece is looked at with this value held. -/
  | keep (held : Option String)
  /-- The fold ends with this result. -/
  | stop (result : Option String)
  deriving Repr, DecidableEq, Inhabited

namespace Flow

/-- The value held or returned. -/
def value : Flow → Option String
  | keep held => held
  | stop result => result

/-- The flow as a message shows it. -/
def display (flow : Flow) : String :=
  let shown := (flow.value.map quoted).getD "None"
  match flow with
  | keep _ => "Continue(" ++ shown ++ ")"
  | stop _ => "Break(" ++ shown ++ ")"

end Flow

/-- How one alternative gets its value. -/
abbrev Lookup := String → Traced (Option String)

/-- How an identifier gets its value within a project. -/
abbrev ProjectLookup := String → ProjectGroup → Traced (Option String)

/-- Keeps a value that exists as a path and drops any other. -/
def confirmHeld (pathExists : String → Bool) (held : String) : Traced Flow := do
  Traced.emit (.probe held)
  if pathExists held then return .stop (some held)
  else
    Traced.remark (.missing held)
    return .keep none

/-- One step of the fold over trimmed pieces. -/
def chainStep (pathExists : String → Bool) (lookup : Lookup) (held : Option String)
    (segment : String) : Traced Flow :=
  match held with
  | none => if segment = "" then return .keep none else return .keep (← lookup segment)
  | some value =>
    if segment = "" then confirmHeld pathExists value else return .stop (some value)

/-- The fold over trimmed pieces, from a held value on. -/
def foldChain (pathExists : String → Bool) (lookup : Lookup) :
    Option String → List String → Traced Flow
  | held, [] => return .keep held
  | held, segment :: rest => do
    match ← chainStep pathExists lookup held segment with
    | .stop result => return .stop result
    | .keep held => foldChain pathExists lookup held rest

/-- Folds the alternatives that a separator ends. -/
def foldText (pathExists : String → Bool) (lookup : Lookup) (separator s : String) :
    Traced Flow := do
  let pieces ← Traced.ofExcept (terminated separator s)
  foldChain pathExists lookup none (pieces.map trim)

/-- The value of a chain; a text without a question mark is its only alternative. -/
def chainValue (pathExists : String → Bool) (lookup : Lookup) (s : String) :
    Traced (Option String) :=
  match questionMarkOf? s with
  | none => lookup s
  | some separator => return (← foldText pathExists lookup separator s).value

/-- What a chain within a project looks alternatives up with. -/
structure ProjectChain where
  pathExists : String → Bool
  lookup : ProjectLookup
  /-- The value of a reference to another namespace, where such references are followed. -/
  follow : Option Lookup

/-- The reference that an alternative of a project chain is to be followed as, if any. -/
def ProjectChain.followOf? (chain : ProjectChain) (segment : String) : Option Lookup :=
  if startsReference segment then chain.follow else none

/--
The fold over trimmed pieces of a project chain.  `current` is the chunk whose
group alternatives belong to; a piece with a parenthesis replaces it, for itself
and for the pieces after it.
-/
def ProjectChain.fold (chain : ProjectChain) :
    (current : String) → (held : Option String) → List String → Traced Flow
  | _, held, [] => return .keep held
  | current, none, segment :: rest =>
    if segment = "" then chain.fold current none rest
    else match chain.followOf? segment with
    | some follow => do
      let held ← follow segment
      chain.fold current held rest
    | none =>
      let current := if contains "(" segment then segment else current
      match ProjectGroup.parse? current with
      | none => do
        Traced.remark (.malformedGroup current)
        return .stop none
      | some group => do
        let held ← chain.lookup (afterLastColon segment) group
        chain.fold current held rest
  | current, some value, segment :: rest =>
    if segment = "" then do
      match ← confirmHeld chain.pathExists value with
      | .stop result => return .stop result
      | .keep held => chain.fold current held rest
    else return .stop (some value)

/-- Folds the alternatives of a project chain that a separator ends. -/
def ProjectChain.foldText (chain : ProjectChain) (first separator s : String) : Traced Flow := do
  let pieces ← Traced.ofExcept (terminated separator s)
  chain.fold first none (pieces.map trim)

/-- The value of a project chain, whose tag carries the group it starts with. -/
def ProjectChain.value (chain : ProjectChain) (first s : String) : Traced (Option String) :=
  match questionMarkOf? s with
  | some separator => return (← chain.foldText first separator s).value
  | none =>
    match chain.followOf? s with
    | some follow => follow s
    | none =>
      match ProjectGroup.parse? first with
      | none => return none
      | some group => chain.lookup s group

end PathExpr.Expr

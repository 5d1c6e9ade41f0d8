import PathExpr.RawSequence
import PathExpr.Resolver

/-!
# Path specifications

A raw sequence together with the path it last resolved to.  Only the raw
sequence is stated from outside; the path is found by resolving and stays until
the next resolution succeeds, whatever becomes of the raw sequence meanwhile.
-/

namespace PathExpr

open PathExpr.Text

/-- A raw sequence, its path, and what it is resolved with. -/
structure PathSpec where
  raw : List String
  path : Option Path
  config : Config
  providers : World → Providers

namespace PathSpec

/-- A specification that has not been resolved. -/
def ofRaw (raw : List String) (config : Config) (providers : World → Providers) : PathSpec :=
  ⟨raw, none, config, providers⟩

/-- A specification over the built-in providers. -/
def builtIn (raw : List String) (config : Config) : PathSpec :=
  ofRaw raw config fun world => Providers.builtIn world config

/-- What the specification is resolved with on a machine. -/
def resolver (spec : PathSpec) (world : World) : Resolver :=
  ⟨spec.config, spec.providers world, world.pathExists⟩

/-- The specification with the path that its raw sequence resolves to. -/
def resolve (spec : PathSpec) (world : World) : Traced PathSpec := do
  let path ← (spec.resolver world).pathOf spec.raw
  return { spec with path }

/-- The resolved specification whose raw sequence a document holds. -/
def load (world : World) (config : Config) (providers : World → Providers) (data : Value)
    (format : Option String) : Traced PathSpec := do
  let raw ← Traced.ofExcept (RawSequence.read data format)
  (ofRaw raw config providers).resolve world

/-- The specification with the raw sequence that a value holds. -/
def withRaw (spec : PathSpec) (value : Value) : Except Fault PathSpec :=
  return { spec with raw := ← RawSequence.ofValue value }

/-- The specification with one more text at the end of its raw sequence. -/
def push (spec : PathSpec) (item : String) : PathSpec :=
  { spec with raw := spec.raw ++ [item] }

/-- The specification with an empty raw sequence. -/
def clear (spec : PathSpec) : PathSpec :=
  { spec with raw := [] }

/-- The path as a text, which is empty when there is none. -/
def display (spec : PathSpec) : String :=
  match spec.path with
  | some path => path.text
  | none => ""

/-- Whether there is a path and it exists. -/
def pathExists (spec : PathSpec) (world : World) : Bool :=
  match spec.path with
  | some path => world.pathExists path.text
  | none => false

/-- The path, which must have been found. -/
def requirePath (spec : PathSpec) : Except Fault Path :=
  match spec.path with
  | some path => .ok path
  | none => .error (.unresolved spec.raw)

/-- The raw sequence and the path as a message shows them. -/
def describe (spec : PathSpec) : String :=
  let shown := match spec.path with
    | some path => quoted path.text
    | none => "None"
  "EnvPath(raw=" ++ Fault.displayTexts spec.raw ++ ", path=" ++ shown ++ ")"

/-- Whether two specifications have the same raw sequence and the same path. -/
def same (a b : PathSpec) : Bool :=
  a.raw == b.raw && a.path == b.path

end PathSpec

end PathExpr

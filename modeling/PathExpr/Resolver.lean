import PathExpr.Config.Basic
import PathExpr.Expr.Folding
import PathExpr.Providers

/-!
# Resolution

A raw sequence is resolved element by element.  An element whose tag names an
enabled namespace is an expression, and its chain of alternatives is looked up
there; any other element stands for itself.  The values are joined into a path;
one expression without a value leaves the whole sequence without a path.
-/

namespace PathExpr

open PathExpr.Expr PathExpr.Text

/-- What expressions are resolved with. -/
structure Resolver where
  config : Config
  providers : Providers
  pathExists : String → Bool

namespace Resolver

/-- A resolver over the built-in providers. -/
def builtIn (world : World) (config : Config) : Resolver :=
  ⟨config, Providers.builtIn world config, world.pathExists⟩

/-- Asks the provider of a namespace; projects are asked with `askProject`. -/
def ask (resolver : Resolver) (ns : Namespace) (ident : String) : Traced (Option String) := do
  Traced.emit (.lookup ns ident)
  match ns with
  | .env => resolver.providers.env ident
  | .const => resolver.providers.const ident
  | .dir => resolver.providers.dir ident
  | .val => resolver.providers.val ident
  | .proj => return none

/-- Asks the provider of projects. -/
def askProject (resolver : Resolver) (ident : String) (group : ProjectGroup) :
    Traced (Option String) := do
  Traced.emit (.project ident group)
  resolver.providers.proj ident group

/--
The value of an identifier that a reference names.  `again` resolves it where it
is itself a reference; the name of an environment variable never is.
-/
def enterWith (resolver : Resolver) (ns : Namespace) (ident : String)
    (again : (rest : String) → rest.length ≤ ident.length → Traced (Option String)) :
    Traced (Option String) :=
  match ns with
  | .env => resolver.ask .env ident
  | .proj =>
    match inner : projectReference? ident with
    | none => return none
    | some (group, rest) =>
      if startsReference rest then again rest (length_projectReference? inner)
      else resolver.askProject rest group
  | .dir => if startsReference ident then again ident (Nat.le_refl _) else resolver.ask .dir ident
  | .const =>
    if startsReference ident then again ident (Nat.le_refl _) else resolver.ask .const ident
  | .val => if startsReference ident then again ident (Nat.le_refl _) else resolver.ask .val ident

/-- What a reference to a namespace stands for; a disabled namespace has no values. -/
def referenceWith (resolver : Resolver) (segment : String) (ns : Namespace)
    (again : (rest : String) → rest.length < segment.length → Traced (Option String)) :
    Traced (Option String) :=
  match found : referenceIdent? segment ns with
  | none => return none
  | some ident =>
    if resolver.config.enabled ns then
      resolver.enterWith ns ident fun rest shorter =>
        again rest (Nat.lt_of_le_of_lt shorter (length_referenceIdent? found))
    else return none

/-- Follows a reference to another namespace to its value. -/
def follow (resolver : Resolver) (segment : String) : Traced (Option String) :=
  let body := trim segment
  match Namespace.ofLead? body with
  | none => return none
  | some ns => do
    let value ← resolver.referenceWith body ns fun rest shorter =>
      have : rest.length < segment.length :=
        Nat.lt_of_lt_of_le shorter (length_trim_le segment)
      resolver.follow rest
    match value with
    | none => return none
    | some text =>
      Traced.remark (.followed body text)
      return some text
termination_by segment.length

/-- What a reference to the given namespace stands for. -/
def reference (resolver : Resolver) (segment : String) (ns : Namespace) :
    Traced (Option String) :=
  resolver.referenceWith segment ns fun rest _ => resolver.follow rest

/-- The value of one alternative of a namespace. -/
def lookup (resolver : Resolver) (ns : Namespace) (ident : String) : Traced (Option String) :=
  if startsReference ident then resolver.follow ident else resolver.ask ns ident

/-- The value of one alternative of a project. -/
def lookupProject (resolver : Resolver) (ident : String) (group : ProjectGroup) :
    Traced (Option String) :=
  if startsReference ident then resolver.follow ident else resolver.askProject ident group

/-- The namespace of an expression, and its two chunks; other texts have no namespace. -/
def recognize (resolver : Resolver) (s : String) : Option Namespace × List String :=
  match chunks s with
  | [tag, rest] => ((Namespace.ofTag? tag).filter resolver.config.enabled, [tag, rest])
  | other => (none, other)

/-- The value of an expression of a namespace with its tag and its remainder. -/
def evaluate (resolver : Resolver) (ns : Namespace) (tag remainder : String) :
    Traced (Option String) :=
  let chain := foldIdents (foldFor ns) remainder
  match ns with
  | .proj =>
    ProjectChain.value ⟨resolver.pathExists, resolver.lookupProject, some resolver.follow⟩
      tag chain
  | ns => chainValue resolver.pathExists (resolver.lookup ns) chain

/-- What an element of a raw sequence resolves to. -/
inductive Element where
  | literal (text : String)
  | expression (value : Option String)
  deriving Repr, DecidableEq, Inhabited

/-- The text of an element, when it has one. -/
def Element.value? : Element → Option String
  | literal text => some text
  | expression value => value

/-- Resolves one element. -/
def resolveElement (resolver : Resolver) (s : String) : Traced Element :=
  let body := trim s
  match resolver.recognize body with
  | (some ns, [tag, remainder]) => do
    let value ← resolver.evaluate ns tag remainder
    Traced.remark (.resolved body value)
    return .expression value
  | _ => return .literal body

/-- Joins the elements of a sequence to a path. -/
def pathFrom (resolver : Resolver) : Path → List String → Traced (Option Path)
  | path, [] => return some path
  | path, s :: rest => do
    match ← resolver.resolveElement s with
    | .expression none =>
      Traced.remark (.unresolved s)
      return none
    | .expression (some text) => resolver.pathFrom (path.child text) rest
    | .literal text =>
      Traced.remark (.literal text)
      resolver.pathFrom (path.child text) rest

/-- The path that a raw sequence resolves to, if any. -/
def pathOf (resolver : Resolver) (raw : List String) : Traced (Option Path) :=
  resolver.pathFrom Path.empty raw

end Resolver

end PathExpr

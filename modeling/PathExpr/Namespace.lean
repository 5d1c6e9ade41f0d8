import PathExpr.Text.Split

/-!
# Namespaces

The five places in which an identifier can be looked up.  An expression names
its namespace with a dollar sign, a reference from inside another expression
without one.
-/

namespace PathExpr

/-- A place in which identifiers are looked up. -/
inductive Namespace where
  | env
  | dir
  | const
  | proj
  | val
  deriving Repr, DecidableEq, Inhabited

namespace Namespace

/-- All namespaces, in the order in which a reference tries them. -/
def all : List Namespace := [env, dir, const, proj, val]

/-- The word for the namespace in a reference. -/
def word : Namespace → String
  | env => "env"
  | dir => "dir"
  | const => "const"
  | proj => "proj"
  | val => "val"

/-- The word for the namespace in front of an expression. -/
def tag (ns : Namespace) : String :=
  "$" ++ ns.word

/--
The namespace that the tag of an expression names.  A project tag goes on with
its group; the other tags stand alone.
-/
def ofTag? (s : String) : Option Namespace :=
  match [env, const, dir, val].find? fun ns => s == ns.tag with
  | some ns => some ns
  | none => if Text.startsWith proj.tag s then some proj else none

/-- The first namespace whose word the text starts with. -/
def ofLead? (s : String) : Option Namespace :=
  all.find? fun ns => Text.startsWith ns.word s

end Namespace

end PathExpr

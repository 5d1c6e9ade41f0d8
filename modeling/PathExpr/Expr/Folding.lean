import PathExpr.Expr.Reference
import PathExpr.Text.Case

/-!
# Folding of identifiers

Identifiers are compared without regard to case.  Names of environment variables
are folded to upper case with underscores, all others to lower case.  A chain is
folded alternative by alternative; references to other namespaces keep the case
they were written in.
-/

namespace PathExpr.Expr

open PathExpr.Text

/-- The name of the environment variable that an identifier stands for. -/
def foldEnvIdent (ident : String) : String :=
  replace "-" "_" (upper ident)

/-- An identifier in lower case. -/
def foldIdent (ident : String) : String :=
  lower ident

/-- A piece folded, unless it is a reference to another namespace. -/
def foldPiece (fold : String → String) (piece : String) : String :=
  if startsReference piece then piece else fold piece

/-- The chain with every alternative folded. -/
def foldIdents (fold : String → String) (chain : String) : String :=
  match questionMarkOf? chain with
  | none => foldPiece fold chain
  | some separator => join separator ((split separator chain).map (foldPiece fold))

/-- How the identifiers of a namespace are folded. -/
def foldFor : Namespace → String → String
  | .env => foldEnvIdent
  | _ => foldIdent

end PathExpr.Expr

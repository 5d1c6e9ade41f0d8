import PathExpr.Fault

/-!
# Reading documents

A document that does not follow its format is refused as malformed, which is no
failure: the text itself then stands for the document.  A few documents are well
formed and still cannot be turned into values; they fail with a fault.
-/

namespace PathExpr.Format

/-- Why no value comes of a document. -/
inductive Refusal where
  | malformed
  | fault (cause : Fault)

/-- A part of a document, or the refusal of the whole. -/
abbrev Reading := Except Refusal

/-- Refuses the document as malformed. -/
def malformed {α : Type} : Reading α :=
  .error .malformed

/-- Fails with a fault. -/
def failWith {α : Type} (cause : Fault) : Reading α :=
  .error (.fault cause)

/-- The value of a part, the document being malformed without one. -/
def require {α : Type} : Option α → Reading α
  | some value => .ok value
  | none => malformed

/-- A reading with the result of a malformed document in place of its refusal. -/
def otherwise {α : Type} (reading : Reading α) (fallback : Except Fault α) :
    Except Fault α :=
  match reading with
  | .ok value => .ok value
  | .error .malformed => fallback
  | .error (.fault cause) => .error cause

end PathExpr.Format

import PathExpr.Text.Blank
import PathExpr.Text.Quoted
import PathExpr.Text.Split

/-!
# Project groups

A project is named by a qualifier, an organization and an application, written
with dots between them inside parentheses.
-/

namespace PathExpr

open PathExpr.Text

/-- The identity of a project. -/
structure ProjectGroup where
  qualifier : String
  organization : String
  application : String
  deriving Repr, DecidableEq, Inhabited

namespace ProjectGroup

/-- The three names in order. -/
def fields (group : ProjectGroup) : List String :=
  [group.qualifier, group.organization, group.application]

/-- The names that are not empty, with dots between them. -/
def name (group : ProjectGroup) : String :=
  join "." (group.fields.filter (· != ""))

/-- The group as a message shows it. -/
def display (group : ProjectGroup) : String :=
  "ProjectGroup(" ++ ", ".intercalate (group.fields.map quoted) ++ ")"

/--
What stands between the first opening and the last closing parenthesis; nothing
when one of them is missing or they stand the wrong way round.
-/
def inside? (chunk : String) : Option String :=
  match cutChars? ['('] chunk.toList with
  | none => none
  | some (_, rest) =>
    match cutChars? [')'] rest.reverse with
    | none => none
    | some (_, body) => some (String.ofList body.reverse)

/--
One name is both qualifier and application, two are qualifier and application,
and from the third on all names run together into the application.
-/
def ofNames : List String → Option ProjectGroup
  | [] => none
  | [application] => some ⟨application, "", application⟩
  | [qualifier, application] => some ⟨qualifier, "", application⟩
  | qualifier :: organization :: rest => some ⟨qualifier, organization, join "" rest⟩

/-- Reads the group that a chunk carries in parentheses. -/
def parse? (chunk : String) : Option ProjectGroup :=
  (inside? chunk).bind fun body => ofNames ((split "." body).map trim)

end ProjectGroup

end PathExpr

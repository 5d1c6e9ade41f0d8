import PathExpr.Text.Blank

/-!
# Document formats

The four text formats and their names.
-/

namespace PathExpr

open PathExpr.Text

/-- A text format. -/
inductive DocumentFormat where
  | json
  | yaml
  | toml
  | xml
  deriving Repr, DecidableEq, Inhabited

namespace DocumentFormat

/-- All formats. -/
def all : List DocumentFormat := [json, yaml, toml, xml]

/-- The name of a format. -/
def word : DocumentFormat → String
  | json => "json"
  | yaml => "yaml"
  | toml => "toml"
  | xml => "xml"

/-- The format with the given name. -/
def ofWord? (name : String) : Option DocumentFormat :=
  all.find? fun format => format.word == name

/-- The format that the first character of a text suggests. -/
def detect? (s : String) : Option DocumentFormat :=
  match (trimStart s).toList with
  | '\x7b' :: _ => some json
  | '[' :: _ => some json
  | '<' :: _ => some xml
  | _ => none

end DocumentFormat

end PathExpr

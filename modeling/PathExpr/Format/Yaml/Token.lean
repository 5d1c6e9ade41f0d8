import PathExpr.Format.Reading

/-!
# Tokens of YAML

The marks, names and scalars that a document consists of.
-/

namespace PathExpr.Format.Yaml

/-- An instruction at the head of a document. -/
inductive Directive where
  | version (major : Nat)
  | handle (name lead : String)
  | other
  deriving Repr, DecidableEq

/-- A token of a document. -/
inductive Token where
  | documentStart
  | documentEnd
  | directive (content : Directive)
  | blockSequenceStart
  | blockMappingStart
  | blockEnd
  | flowSequenceStart
  | flowSequenceEnd
  | flowMappingStart
  | flowMappingEnd
  | flowEntry
  | blockEntry
  | key
  | value
  | alias (name : String)
  | anchor (name : String)
  | tag (handle : Option String) (suffix : String)
  | scalar (text : String) (isPlain : Bool)
  | streamEnd
  /-- Nothing can be read from here on. -/
  | refused (why : Refusal)

end PathExpr.Format.Yaml

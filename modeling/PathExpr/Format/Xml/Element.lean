import PathExpr.Value
import PathExpr.Text.Blank

/-!
# Elements of XML

An element with its attributes and its content, and the value that it stands
for.  Attributes come first, children of one name are gathered under that name,
and the text between them comes last, without the blanks at its ends.  An
element with text alone is that text, and one with nothing is nothing.
-/

namespace PathExpr.Format.Xml

mutual

/-- An element. -/
inductive Element where
  | mk (name : String) (attributes : List (String × String)) (content : List Item)

/-- What stands inside an element. -/
inductive Item where
  | text (cs : List Char)
  | element (e : Element)

end

/-- The name of an element. -/
def Element.name : Element → String
  | .mk name _ _ => name

/-- The text directly inside an element. -/
def contentText : List Item → List Char
  | [] => []
  | .text cs :: rest => cs ++ contentText rest
  | .element _ :: rest => contentText rest

/-- Adds a value under a name: values that share a name become a list. -/
def gather (name : String) (value : Value) (entries : List (Value × Value)) :
    List (Value × Value) :=
  match Value.lookup? (.text name) entries with
  | none => entries ++ [(.text name, value)]
  | some (.list values) => Value.insert (.text name) (.list (values ++ [value])) entries
  | some other => Value.insert (.text name) (.list [other, value]) entries

mutual

/-- The value that an element stands for. -/
def Element.toValue : Element → Value
  | .mk _ attributes content =>
    let entries := itemEntries content
      (attributes.map fun given => (.text ("@" ++ given.1), .text given.2))
    match entries, Text.trimChars (contentText content) with
    | [], [] => .null
    | [], text => .text (String.ofList text)
    | entries, [] => .map entries
    | entries, text => .map (gather "#text" (.text (String.ofList text)) entries)

/-- The entries of the child elements, after those already there. -/
def itemEntries : List Item → List (Value × Value) → List (Value × Value)
  | [], entries => entries
  | .text _ :: rest, entries => itemEntries rest entries
  | .element child :: rest, entries =>
    itemEntries rest (gather child.name child.toValue entries)

end

end PathExpr.Format.Xml

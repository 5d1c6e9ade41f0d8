import PathExpr.Text.Blank
import PathExpr.Text.Split
import PathExpr.Value.Display

/-!
# Writing XML

A mapping with one key becomes an element.  Keys with an at sign in front are
attributes, the key for text holds what stands directly inside the element, the
key for comments holds comments, and every other key is a child element, or as
many of them as its list has items.
-/

namespace PathExpr.Format.Xml

open PathExpr.Text

/-- The first thing wrong with a name, if any. -/
def nameFlaw? (cs : List Char) : Option NameFlaw :=
  if cs.head? = some '?' || cs.head? = some '!' then some .mark
  else if cs.any fun c => c == '<' || c == '>' then some .angle
  else if cs.any (· == '/') then some .slash
  else if cs.any fun c => c == '"' || c == '\'' then some .quote
  else if cs.any (· == '=') then some .equals
  else if cs.any isBlank then some .blank
  else none

/-- The name of an element that a key gives. -/
def elementName : Value → Except Fault (List Char)
  | .text s =>
    match nameFlaw? s.toList with
    | none => .ok s.toList
    | some flaw => .error (.xml (.elementName flaw))
  | _ => .error (.xml .elementNotText)

/-- The name of an attribute. -/
def attributeName (cs : List Char) : Except Fault (List Char) :=
  match nameFlaw? cs with
  | none => .ok cs
  | some flaw => .error (.xml (.attributeName flaw))

/-- A character of a text between tags. -/
def escapedText (c : Char) : List Char :=
  if c = '&' then "&amp;".toList
  else if c = '<' then "&lt;".toList
  else if c = '>' then "&gt;".toList
  else [c]

/-- A character of the value of an attribute. -/
def escapedAttribute (c : Char) : List Char :=
  if c = '\n' then "&#10;".toList
  else if c = '\r' then "&#13;".toList
  else if c = '\t' then "&#9;".toList
  else escapedText c

/-- The value of an attribute between quotes: single ones around double ones alone. -/
def quotedAttribute (cs : List Char) : List Char :=
  let body := cs.flatMap escapedAttribute
  if body.contains '"' then
    if body.contains '\'' then
      '"' :: body.flatMap (fun c => if c = '"' then "&quot;".toList else [c]) ++ ['"']
    else '\'' :: body ++ ['\'']
  else '"' :: body ++ ['"']

/-- The text of a value that is no mapping: nothing is empty, and bytes are read as text. -/
def contentOf : Value → Except Fault (List Char)
  | .null => .ok []
  | .bool b => .ok (if b then "true".toList else "false".toList)
  | .bytes data => .ok (decodeLenient data).toList
  | .byteArray data => .ok (decodeLenient data).toList
  | value => return (← value.shown).toList

/-- The key for text. -/
def textKey : String := "#text"

/-- The key for comments. -/
def commentKey : String := "#comment"

/-- Whether the key is a given text. -/
def isKeyText (key : Value) (s : String) : Bool :=
  match key with
  | .text k => k == s
  | _ => false

/-- The name behind the at sign of an attribute's key. -/
def attributeKey? : Value → Option (List Char)
  | .text s => afterLead? ['@'] s.toList
  | _ => none

/-- Binds an attribute: its old place is kept and a new one comes last. -/
def bindAttribute (name value : List Char) :
    List (List Char × List Char) → List (List Char × List Char)
  | [] => [(name, value)]
  | (k, v) :: rest =>
    if k = name then (k, value) :: rest else (k, v) :: bindAttribute name value rest

/-- What stands in and right behind a start tag. -/
structure Opening where
  attributes : List (List Char × List Char) := []
  text : List Char := []

/-- The opening with one more attribute. -/
def Opening.withAttribute (opening : Opening) (name value : List Char) : Opening :=
  { opening with attributes := bindAttribute name value opening.attributes }

/-- The opening with the attributes that declare the namespaces of a mapping. -/
def Opening.withNamespaces : Opening → List (Value × Value) → Except Fault Opening
  | opening, [] => .ok opening
  | opening, (.text name, value) :: rest => do
    let name ← attributeName name.toList
    let target ← contentOf value
    let full := "xmlns".toList ++ (if name.isEmpty then [] else ':' :: name)
    (opening.withAttribute full target).withNamespaces rest
  | _, _ :: _ => .error (.xml .attributeNotText)

/-- The opening with the attributes and the text among the entries, the last text counting. -/
def Opening.withEntries : Opening → List (Value × Value) → Except Fault Opening
  | opening, [] => .ok opening
  | opening, (key, value) :: rest => do
    if isKeyText key textKey then
      let text ← contentOf value
      { opening with text }.withEntries rest
    else
      match attributeKey? key, value with
      | none, _ => opening.withEntries rest
      | some ['x', 'm', 'l', 'n', 's'], .map spaces =>
        (← opening.withNamespaces spaces).withEntries rest
      | some name, value =>
        let content ← contentOf value
        let name ← attributeName name
        (opening.withAttribute name content).withEntries rest

/-- Whether the value is an empty list, for which there are no elements. -/
def isEmptyList : Value → Bool
  | .list [] => true
  | _ => false

/-- Whether the entry is a child of its element. -/
def isChild (key value : Value) : Bool :=
  !isKeyText key textKey && (attributeKey? key).isNone && !isEmptyList value

/-- The blanks in front of a line. -/
def indentation (pretty : Bool) (depth : Nat) : List Char :=
  if pretty then List.replicate depth '\t' else []

/-- The end of a line. -/
def lineEnd (pretty : Bool) : List Char :=
  if pretty then ['\n'] else []

/-- A comment, if there is any text for it. -/
def writeComment (pretty : Bool) (depth : Nat) (value : Value) : Except Fault (List Char) := do
  let text ← contentOf value
  if text.isEmpty then return []
  else if (cutChars? ['-', '-'] text).isSome then throw (.xml .commentDashes)
  else if text.getLast? = some '-' then throw (.xml .commentEnd)
  else
    return indentation pretty depth ++ "<!--".toList ++ text.flatMap escapedText ++
      "-->".toList ++ lineEnd pretty

/-- Comments, one below the other. -/
def writeComments (pretty : Bool) (depth : Nat) : List Value → Except Fault (List Char)
  | [] => .ok []
  | value :: rest => do
    let first ← writeComment pretty depth value
    return first ++ (← writeComments pretty depth rest)

/-- The attributes of a start tag. -/
def writeAttributes (attributes : List (List Char × List Char)) : List Char :=
  attributes.flatMap fun pair => ' ' :: pair.1 ++ '=' :: quotedAttribute pair.2

/-- An element around its content; child elements stand on lines of their own. -/
def wrapElement (pretty : Bool) (depth : Nat) (name : List Char) (opening : Opening)
    (children : List Char) (hasChildren : Bool) : List Char :=
  indentation pretty depth ++ '<' :: name ++ writeAttributes opening.attributes ++ '>' ::
    (if hasChildren then lineEnd pretty else []) ++ children ++
    opening.text.flatMap escapedText ++
    (if hasChildren then indentation pretty depth else []) ++ '<' :: '/' :: name ++ ['>'] ++
    (if depth = 0 then [] else lineEnd pretty)

/-- Whether an entry gives elements or comments; on the top level every entry does. -/
def isNode (depth : Nat) (key value : Value) : Bool :=
  depth == 0 || isChild key value

mutual

/-- An element with the entries of a mapping, or with the text of any other value. -/
def writeElement (pretty : Bool) (depth : Nat) (name : List Char) :
    Value → Except Fault (List Char)
  | .map entries => do
    let opening ← Opening.withEntries {} entries
    let children ← writeEntries pretty (depth + 1) entries
    let hasChildren := entries.any fun entry => isChild entry.1 entry.2
    return wrapElement pretty depth name opening children hasChildren
  | value => do
    let text ← contentOf value
    return wrapElement pretty depth name ⟨[], text⟩ [] false

/-- An element for each item of a list; a document has only one. -/
def writeElements (pretty : Bool) (depth : Nat) (name : List Char) (isFirst : Bool) :
    List Value → Except Fault (List Char)
  | [] => .ok []
  | item :: rest =>
    if depth = 0 && !isFirst then .error (.xml .multipleRoots)
    else do
      let own ← writeElement pretty depth name item
      let others ← writeElements pretty depth name false rest
      return own ++ others

/-- What the entries of a mapping become: comments, and elements named by their keys. -/
def writeEntries (pretty : Bool) (depth : Nat) :
    List (Value × Value) → Except Fault (List Char)
  | [] => .ok []
  | (key, .list items) :: rest => do
    let own ←
      if !isNode depth key (.list items) then pure []
      else if isKeyText key commentKey then writeComments pretty depth items
      else do
        let name ← elementName key
        writeElements pretty depth name true items
    let others ← writeEntries pretty depth rest
    return own ++ others
  | (key, value) :: rest => do
    let own ←
      if !isNode depth key value then pure []
      else if isKeyText key commentKey then writeComment pretty depth value
      else do
        let name ← elementName key
        writeElement pretty depth name value
    let others ← writeEntries pretty depth rest
    return own ++ others

end

/-- The line that every document starts with. -/
def documentHead : List Char :=
  "<?xml version=\"1.0\" encoding=\"utf-8\"?>\n".toList

/-- The one element of a document, and the comments around it. -/
def writeRoots (pretty : Bool) : (hasRoot : Bool) → List (Value × Value) →
    Except Fault (List Char)
  | hasRoot, [] => if hasRoot then .ok [] else .error (.xml .notOneRoot)
  | hasRoot, (key, value) :: rest => do
    let isComment := isKeyText key commentKey
    if hasRoot && !isComment then throw (.xml .notOneRoot)
    let own ← writeEntries pretty 0 [(key, value)]
    return own ++ (← writeRoots pretty (hasRoot || !isComment) rest)

/-- The XML text of a mapping. -/
def write (pretty : Bool) (entries : List (Value × Value)) : Except Fault String := do
  return String.ofList (documentHead ++ (← writeRoots pretty false entries))

end PathExpr.Format.Xml

import PathExpr.Format.Xml.Doctype
import PathExpr.Format.Xml.Element

/-!
# Reading XML

A document is one element, with a declaration, a document type, comments and
processing instructions around it.
-/

namespace PathExpr.Format.Xml

/-- The attributes of a start tag up to its end, as they are given. -/
def readAttributes (lenient : Bool) : Nat → List Char →
    Reading (List (String × String) × List Char)
  | 0, _ => malformed
  | fuel + 1, cs =>
    match cs with
    | c :: rest =>
      if isXmlBlank c then
        match skipBlanks rest with
        | '>' :: rest => .ok ([], '>' :: rest)
        | '/' :: rest => .ok ([], '/' :: rest)
        | rest => do
          let (name, rest) ← require (takeName rest)
          match skipBlanks rest with
          | '=' :: rest => do
            let (written, rest) ← require (takeQuoted (skipBlanks rest))
            let text ← attributeText lenient (written.length + 1) written
            let (others, rest) ← readAttributes lenient fuel rest
            if (others.lookup name).isSome then malformed
            else return ((name, String.ofList text) :: others, rest)
          | _ => malformed
      else .ok ([], c :: rest)
    | [] => malformed

/-- The attributes of an element: those given, then those that its type declares. -/
def completeAttributes (doctype : Doctype) (element : String)
    (given : List (String × String)) : List (String × String) :=
  let declared := doctype.attributes.filter fun decl => decl.element == element
  let adjusted := given.map fun own =>
    match declared.find? fun decl => decl.name == own.1 with
    | some decl =>
      if decl.isText then own
      else (own.1, String.ofList (squeezeSpaces own.2.toList))
    | none => own
  let missing := declared.filterMap fun decl =>
    if (given.lookup decl.name).isSome then none
    else decl.fallback.map fun value => (decl.name, value)
  adjusted ++ missing

/-- What follows an end tag behind its opening mark. -/
def passEndTag (name : String) (cs : List Char) : Reading (List Char) := do
  let (found, rest) ← require (takeName cs)
  match skipBlanks rest with
  | '>' :: rest => if found = name then return rest else malformed
  | _ => malformed

/-- The characters of a section that holds no markup, behind its opening mark. -/
def readSection (cs : List Char) : Reading (List Char × List Char) :=
  match Text.cutChars? [']', ']', '>'] cs with
  | some (text, rest) => if text.all isXmlChar then .ok (text, rest) else malformed
  | none => malformed

mutual

/-- Reads an element behind its opening bracket. -/
def readElement (doctype : Doctype) : Nat → List Char → Reading (Element × List Char)
  | 0, _ => malformed
  | fuel + 1, cs => do
    let (name, rest) ← require (takeName cs)
    let (given, rest) ← readAttributes doctype.isLenient (rest.length + 1) rest
    let attributes := completeAttributes doctype name given
    match rest with
    | '/' :: '>' :: rest => return (.mk name attributes [], rest)
    | '>' :: rest => do
      let (content, rest) ← readContent doctype fuel rest
      let rest ← passEndTag name rest
      return (.mk name attributes content, rest)
    | _ => malformed

/-- Reads the content of an element up to the name in its end tag. -/
def readContent (doctype : Doctype) : Nat → List Char → Reading (List Item × List Char)
  | 0, _ => malformed
  | fuel + 1, cs => do
    match cs with
    | '<' :: '/' :: rest => return ([], rest)
    | '<' :: '!' :: '-' :: '-' :: rest => do
      let rest ← passComment rest
      readContent doctype fuel rest
    | '<' :: '!' :: '[' :: 'C' :: 'D' :: 'A' :: 'T' :: 'A' :: '[' :: rest => do
      let (text, rest) ← readSection rest
      let (items, rest) ← readContent doctype fuel rest
      return (.text text :: items, rest)
    | '<' :: '?' :: rest => do
      let rest ← passInstruction rest
      readContent doctype fuel rest
    | '<' :: rest => do
      let (child, rest) ← readElement doctype fuel rest
      let (items, rest) ← readContent doctype fuel rest
      return (.element child :: items, rest)
    | '&' :: rest => do
      let (text, rest) ← readReference doctype.isLenient rest
      let (items, rest) ← readContent doctype fuel rest
      return (.text text :: items, rest)
    | ']' :: ']' :: '>' :: _ => malformed
    | c :: rest =>
      if isXmlChar c then do
        let (items, rest) ← readContent doctype fuel rest
        return (.text [c] :: items, rest)
      else malformed
    | [] => malformed

end

/-- Whether the value of a part of the declaration may hold the character. -/
def isDeclarationChar (c : Char) : Bool :=
  ('a' ≤ c && c ≤ 'z') || ('A' ≤ c && c ≤ 'Z') || ('0' ≤ c && c ≤ '9') || c == '.' || c == '-' ||
  c == '_'

/-- A part of the declaration, behind a blank: its name and its value; or the end. -/
def declarationPart (cs : List Char) : Reading (Option (String × String) × List Char) := do
  match skipBlanks cs with
  | [] => return (none, [])
  | rest =>
    if !headIs isXmlBlank cs then malformed
    else
      let name := rest.takeWhile fun c => !(isXmlBlank c || c == '=')
      match skipBlanks (rest.drop name.length) with
      | '=' :: rest => do
        let (value, rest) ← require (takeQuoted (skipBlanks rest))
        if value.all isDeclarationChar && name.all (fun c => c.toNat < 128) then
          return (some (String.ofList name, String.ofList value), rest)
        else malformed
      | _ => malformed

/-- Whether the text starts with a letter. -/
def startsWithLetter (s : String) : Bool :=
  headIs (fun c => ('a' ≤ c && c ≤ 'z') || ('A' ≤ c && c ≤ 'Z')) s.toList

/-- Whether a declaration says that its document stands alone. -/
def declaresStandalone (content : List Char) : Reading Bool := do
  let (version, rest) ← declarationPart content
  match version with
  | some ("version", _) => do
    let (second, rest) ← declarationPart rest
    let (third, rest) ← match second with
      | some ("encoding", name) =>
        if startsWithLetter name then declarationPart rest else malformed
      | other => pure (other, rest)
    match third with
    | none => return false
    | some ("standalone", word) =>
      if !(skipBlanks rest).isEmpty then malformed
      else if word = "yes" then return true
      else if word = "no" then return false
      else malformed
    | some _ => malformed
  | _ => malformed

/-- The declaration at the start of a document, if there is one, and what follows it. -/
def readDeclaration (cs : List Char) : Reading (Bool × List Char) := do
  match cs with
  | '<' :: '?' :: rest =>
    match takeInstruction rest with
    | .ok ("xml", content, rest) => return (← declaresStandalone content, rest)
    | _ => return (false, cs)
  | cs => return (false, cs)

/-- Reads what stands before the element, and the element. -/
def readProlog : Nat → (typed : Bool) → Doctype → List Char → Reading (Element × List Char)
  | 0, _, _, _ => malformed
  | fuel + 1, typed, doctype, cs => do
    match skipBlanks cs with
    | '<' :: '!' :: '-' :: '-' :: rest => do
      let rest ← passComment rest
      readProlog fuel typed doctype rest
    | '<' :: '!' :: 'D' :: 'O' :: 'C' :: 'T' :: 'Y' :: 'P' :: 'E' :: rest => do
      if typed || !headIs isXmlBlank rest then malformed
      else
        let (doctype, rest) ← readDoctype doctype rest
        readProlog fuel true doctype rest
    | '<' :: '?' :: rest => do
      let rest ← passInstruction rest
      readProlog fuel typed doctype rest
    | '<' :: rest => readElement doctype (2 * rest.length + 2) rest
    | _ => malformed

/-- Passes over what stands behind the element. -/
def passEpilog : Nat → List Char → Reading Unit
  | 0, _ => malformed
  | fuel + 1, cs => do
    match skipBlanks cs with
    | [] => return ()
    | '<' :: '!' :: '-' :: '-' :: rest => do
      let rest ← passComment rest
      passEpilog fuel rest
    | '<' :: '?' :: rest => do
      let rest ← passInstruction rest
      passEpilog fuel rest
    | _ => malformed

/-- A document without a mark for the order of bytes at its start. -/
def dropByteOrderMark : List Char → List Char
  | '\uFEFF' :: rest => rest
  | cs => cs

/-- The element of an XML document. -/
def readDocument (s : String) : Reading Element := do
  let cs := unifyLineFeeds (dropByteOrderMark s.toList)
  let (isStandalone, rest) ← readDeclaration cs
  let doctype : Doctype := ⟨[], false, true, isStandalone⟩
  let (element, rest) ← readProlog (rest.length + 1) false doctype rest
  passEpilog (rest.length + 1) rest
  return element

/-- The value of an XML document: its element under its name. -/
def read (s : String) : Reading Value := do
  let element ← readDocument s
  return .map [(.text element.name, element.toValue)]

end PathExpr.Format.Xml

import PathExpr.Format.Xml.Markup

/-!
# Document types in XML

The declaration of a document's type, with the declarations inside it.  It
settles which attributes elements have without being given them, and whether
names that are not declared may be referred to.  Entities may not be declared.
-/

namespace PathExpr.Format.Xml

/-- What a declaration consists of. -/
inductive DeclToken where
  | space
  | name (text : String)
  /-- A name with the mark of a repetition behind it. -/
  | repeated (text : String)
  /-- A word that could stand inside a name but not begin one. -/
  | word (text : String)
  | literal (text : List Char)
  | hash (text : String)
  | openGroup
  | closeGroup (mark : Option Char)
  | comma
  | bar
  | close
  | percent
  | parameter
  | openSubset
  | closeSubset
  | declare (keyword : String)
  | passed
  deriving Repr, DecidableEq

/-- Whether the character may stand behind a name. -/
def endsDeclName (c : Char) : Bool :=
  isXmlBlank c || [')', '>', ',', '|', '[', '%'].contains c

/-- Whether the character may stand behind a literal. -/
def endsLiteral (c : Char) : Bool :=
  isXmlBlank c || ['>', '[', '%'].contains c

/-- Whether the character is the mark of a repetition. -/
def isRepetition (c : Char) : Bool :=
  c == '*' || c == '+' || c == '?'

/-- Whether the first character satisfies the test. -/
def headIs (test : Char → Bool) : List Char → Bool
  | c :: _ => test c
  | [] => false

/-- The token at the start of a declaration, and what follows it. -/
def declToken (cs : List Char) : Reading (DeclToken × List Char) :=
  match cs with
  | [] => malformed
  | '<' :: '!' :: '-' :: '-' :: rest => return (.passed, ← passComment rest)
  | '<' :: '!' :: rest =>
    let keyword := rest.takeWhile fun c => ('A' ≤ c && c ≤ 'Z') || ('a' ≤ c && c ≤ 'z')
    let rest := rest.drop keyword.length
    if keyword.isEmpty || !headIs isXmlBlank rest then malformed
    else .ok (.declare (String.ofList keyword), rest)
  | '<' :: '?' :: rest => return (.passed, ← passInstruction rest)
  | '%' :: rest =>
    if headIs (fun c => isXmlBlank c || c == '%') rest then .ok (.percent, rest)
    else do
      let (_, rest) ← require (takeName rest)
      match rest with
      | ';' :: rest => return (.parameter, rest)
      | _ => malformed
  | '#' :: rest => do
    let (name, rest) ← require (takeName rest)
    if headIs (fun c => isXmlBlank c || [')', '>', '%', '|'].contains c) rest then
      return (.hash name, rest)
    else malformed
  | ',' :: rest => .ok (.comma, rest)
  | '|' :: rest => .ok (.bar, rest)
  | '(' :: rest => .ok (.openGroup, rest)
  | '[' :: rest => .ok (.openSubset, rest)
  | ']' :: rest => .ok (.closeSubset, rest)
  | '>' :: rest => .ok (.close, rest)
  | ')' :: rest =>
    match rest with
    | c :: after =>
      if isRepetition c then .ok (.closeGroup (some c), after)
      else if isXmlBlank c || ['>', ',', '|', ')'].contains c then .ok (.closeGroup none, rest)
      else malformed
    | [] => malformed
  | c :: rest =>
    if isXmlBlank c then .ok (.space, skipBlanks rest)
    else if c == '"' || c == '\'' then do
      let (text, rest) ← require (takeQuoted (c :: rest))
      if text.all isXmlChar && headIs endsLiteral rest then return (.literal text, rest)
      else malformed
    else if isNameChar c then
      let text := String.ofList (c :: rest.takeWhile isNameChar)
      let after := rest.dropWhile isNameChar
      if headIs endsDeclName after then
        .ok (if isNameStart c then .name text else .word text, after)
      else if headIs isRepetition after && isNameStart c then
        .ok (.repeated text, after.drop 1)
      else malformed
    else malformed

/-- The next token that is no blank. -/
def nextDecl (cs : List Char) : Reading (DeclToken × List Char) :=
  declToken (skipBlanks cs)

/-- What follows the closing mark of a declaration. -/
def passClose (cs : List Char) : Reading (List Char) := do
  match ← nextDecl cs with
  | (.close, rest) => return rest
  | _ => malformed

/-- A name, and what follows it. -/
def declName (cs : List Char) : Reading (String × List Char) := do
  match ← nextDecl cs with
  | (.name text, rest) => return (text, rest)
  | _ => malformed

/-- A literal, and what follows it. -/
def declLiteral (cs : List Char) : Reading (List Char × List Char) := do
  match ← nextDecl cs with
  | (.literal text, rest) => return (text, rest)
  | _ => malformed

/-- Whether a public identifier may hold the character. -/
def isPublicChar (c : Char) : Bool :=
  ('a' ≤ c && c ≤ 'z') || ('A' ≤ c && c ≤ 'Z') || ('0' ≤ c && c ≤ '9') ||
  " \r\n-'()+,./:=?;!*#@$_%".toList.contains c

/-- A public identifier. -/
def publicLiteral (cs : List Char) : Reading (List Char) := do
  let (text, rest) ← declLiteral cs
  if text.all isPublicChar then return rest else malformed

/-- An external identifier behind its keyword. -/
def externalId (keyword : String) (cs : List Char) : Reading (List Char) := do
  match keyword with
  | "SYSTEM" => return (← declLiteral cs).2
  | "PUBLIC" => return (← declLiteral (← publicLiteral cs)).2
  | _ => malformed

/-- An attribute as a document type declares it. -/
structure AttributeDecl where
  element : String
  name : String
  /-- Whether its value is a plain text and not a list of words. -/
  isText : Bool
  /-- The value where none is given. -/
  fallback : Option String
  deriving Repr, DecidableEq

/-- What the document type says about a document. -/
structure Doctype where
  attributes : List AttributeDecl
  /-- Whether parts of the type lie outside the document. -/
  isPartial : Bool
  /-- Whether declarations still count, all parts before them being known. -/
  isCounting : Bool
  /-- Whether the document declares that it stands alone. -/
  isStandalone : Bool
  deriving Repr, DecidableEq

/-- Whether names that are not declared may be referred to. -/
def Doctype.isLenient (doctype : Doctype) : Bool :=
  doctype.isPartial && !doctype.isStandalone

/-- The declaration of an entity, which is refused unless it does not count. -/
def entityDecl (doctype : Doctype) (cs : List Char) : Reading (List Char) := do
  let refuse : Reading Unit := if doctype.isCounting then failWith .entityDeclared else .ok ()
  let (token, rest) ← nextDecl cs
  let (isParameter, name, rest) ← match token with
    | .percent => do
      let (name, rest) ← declName rest
      pure (true, name, rest)
    | .name name => pure (false, name, rest)
    | _ => malformed
  let refuse := if !isParameter && (namedChar? name).isSome then .ok () else refuse
  match ← nextDecl rest with
  | (.literal _, rest) => do
    refuse
    passClose rest
  | (.name keyword, rest) => do
    let rest ← externalId keyword rest
    match ← nextDecl rest with
    | (.close, rest) => do
      refuse
      return rest
    | (.name "NDATA", rest) => do
      if isParameter then malformed
      else
        let (_, rest) ← declName rest
        refuse
        passClose rest
    | _ => malformed
  | _ => malformed

/-- The declaration of a notation. -/
def notationDecl (cs : List Char) : Reading (List Char) := do
  let (_, rest) ← declName cs
  let (keyword, rest) ← declName rest
  match keyword with
  | "SYSTEM" => passClose (← declLiteral rest).2
  | "PUBLIC" =>
    let rest ← publicLiteral rest
    match ← nextDecl rest with
    | (.literal _, rest) => passClose rest
    | (.close, rest) => return rest
    | _ => malformed
  | _ => malformed

/-- The alternatives behind the text of a mixed content. -/
def mixedContent : Nat → List Char → Reading (List Char)
  | 0, _ => malformed
  | fuel + 1, cs => do
    let (_, rest) ← declName cs
    match ← nextDecl rest with
    | (.closeGroup (some '*'), rest) => passClose rest
    | (.bar, rest) => mixedContent fuel rest
    | _ => malformed

/-- The groups of an element's content: `levels` holds the separator of each open group. -/
def groupContent : Nat → (levels : List (Option DeclToken)) → (expectsItem : Bool) →
    List Char → Reading (List Char)
  | 0, _, _, _ => malformed
  | fuel + 1, levels, expectsItem, cs => do
    let (token, rest) ← nextDecl cs
    if expectsItem then
      match token with
      | .openGroup => groupContent fuel (none :: levels) true rest
      | .name _ => groupContent fuel levels false rest
      | .repeated _ => groupContent fuel levels false rest
      | _ => malformed
    else
      match token, levels with
      | .closeGroup _, [_] => passClose rest
      | .closeGroup _, _ :: outer => groupContent fuel outer false rest
      | separator, current :: outer =>
        if (separator == .comma || separator == .bar) &&
            (current.isNone || current == some separator) then
          groupContent fuel (some separator :: outer) true rest
        else malformed
      | _, [] => malformed

/-- The declaration of an element. -/
def elementDecl (cs : List Char) : Reading (List Char) := do
  let (_, rest) ← declName cs
  match ← nextDecl rest with
  | (.name "EMPTY", rest) => passClose rest
  | (.name "ANY", rest) => passClose rest
  | (.openGroup, rest) => do
    match ← nextDecl rest with
    | (.hash "PCDATA", rest) => do
      match ← nextDecl rest with
      | (.closeGroup none, rest) => passClose rest
      | (.closeGroup (some '*'), rest) => passClose rest
      | (.bar, rest) => mixedContent (rest.length + 1) rest
      | _ => malformed
    | _ => groupContent (rest.length + 2) [none] true rest
  | _ => malformed

/-- The words of an enumeration up to its end. -/
def enumeration (namesOnly : Bool) : Nat → List Char → Reading (List Char)
  | 0, _ => malformed
  | fuel + 1, cs => do
    let rest ← match ← nextDecl cs with
      | (.name _, rest) => pure rest
      | (.word _, rest) => if namesOnly then malformed else pure rest
      | _ => malformed
    match ← nextDecl rest with
    | (.closeGroup none, rest) => return rest
    | (.bar, rest) => enumeration namesOnly fuel rest
    | _ => malformed

/-- The type of an attribute: whether its value is a plain text, and what follows. -/
def attributeType (cs : List Char) : Reading (Bool × List Char) := do
  match ← nextDecl cs with
  | (.name "CDATA", rest) => return (true, rest)
  | (.name "NOTATION", rest) => do
    match ← nextDecl rest with
    | (.openGroup, rest) => return (false, ← enumeration true (rest.length + 1) rest)
    | _ => malformed
  | (.name keyword, rest) =>
    if ["ID", "IDREF", "IDREFS", "ENTITY", "ENTITIES", "NMTOKEN", "NMTOKENS"].contains keyword then
      return (false, rest)
    else malformed
  | (.openGroup, rest) => return (false, ← enumeration false (rest.length + 1) rest)
  | _ => malformed

/-- The value that a declaration gives an attribute. -/
def fallbackValue (doctype : Doctype) (isText : Bool) (text : List Char) : Reading String := do
  let value ← attributeText doctype.isLenient (text.length + 1) text
  return String.ofList (if isText then value else squeezeSpaces value)

/-- The declarations of an element's attributes. -/
def attributeDecls (element : String) : Nat → Doctype → List Char →
    Reading (Doctype × List Char)
  | 0, _, _ => malformed
  | fuel + 1, doctype, cs => do
    match ← nextDecl cs with
    | (.close, rest) => return (doctype, rest)
    | (.name name, rest) => do
      let (isText, rest) ← attributeType rest
      let (fallback, rest) ← match ← nextDecl rest with
        | (.hash "IMPLIED", rest) => pure (none, rest)
        | (.hash "REQUIRED", rest) => pure (none, rest)
        | (.hash "FIXED", rest) => do
          let (text, rest) ← declLiteral rest
          pure (some (← fallbackValue doctype isText text), rest)
        | (.literal text, rest) => pure (some (← fallbackValue doctype isText text), rest)
        | _ => malformed
      let known := doctype.attributes.any fun decl =>
        decl.element == element && decl.name == name
      let doctype :=
        if known || !doctype.isCounting then doctype
        else { doctype with
          attributes := doctype.attributes ++ [⟨element, name, isText, fallback⟩] }
      attributeDecls element fuel doctype rest
    | _ => malformed

/-- The declarations inside a document type, up to their closing bracket. -/
def subset : Nat → Doctype → List Char → Reading (Doctype × List Char)
  | 0, _, _ => malformed
  | fuel + 1, doctype, cs => do
    match ← nextDecl cs with
    | (.closeSubset, rest) => return (doctype, rest)
    | (.passed, rest) => subset fuel doctype rest
    | (.parameter, rest) =>
      subset fuel { doctype with isPartial := true, isCounting := doctype.isStandalone } rest
    | (.declare "ENTITY", rest) => do
      let rest ← entityDecl doctype rest
      subset fuel doctype rest
    | (.declare "NOTATION", rest) => do
      let rest ← notationDecl rest
      subset fuel doctype rest
    | (.declare "ELEMENT", rest) => do
      let rest ← elementDecl rest
      subset fuel doctype rest
    | (.declare "ATTLIST", rest) => do
      let (element, rest) ← declName rest
      let (doctype, rest) ← attributeDecls element (rest.length + 1) doctype rest
      subset fuel doctype rest
    | _ => malformed

/-- A document type behind its keyword. -/
def readDoctype (doctype : Doctype) (cs : List Char) : Reading (Doctype × List Char) := do
  let (_, rest) ← declName cs
  let (token, rest) ← nextDecl rest
  let (doctype, token, rest) ← match token with
    | .name keyword => do
      let rest ← externalId keyword rest
      let (token, rest) ← nextDecl rest
      pure ({ doctype with isPartial := true }, token, rest)
    | token => pure (doctype, token, rest)
  match token with
  | .close => return (doctype, rest)
  | .openSubset => do
    let (doctype, rest) ← subset (rest.length + 1) doctype rest
    return (doctype, ← passClose rest)
  | _ => malformed

end PathExpr.Format.Xml

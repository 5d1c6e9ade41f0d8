import PathExpr.Format.Reading
import PathExpr.Format.Xml.Name
import PathExpr.Number.Reading
import PathExpr.Text.Split

/-!
# Markup of XML

What documents and their document types share: blanks, comments, processing
instructions, references and quoted values.
-/

namespace PathExpr.Format.Xml

open PathExpr.Number PathExpr.Text

/-- Whether a document may hold the character. -/
def isXmlChar (c : Char) : Bool :=
  let code := c.toNat
  code == 9 || code == 10 || code == 13 || (32 ≤ code && code ≤ 0xd7ff) ||
  (0xe000 ≤ code && code ≤ 0xfffd) || 0x10000 ≤ code

/-- Whether the character is a blank of markup. -/
def isXmlBlank (c : Char) : Bool :=
  c == ' ' || c == '\t' || c == '\n' || c == '\r'

/-- What follows the blanks at the start. -/
def skipBlanks (cs : List Char) : List Char :=
  cs.dropWhile isXmlBlank

/-- Line feeds in place of the other line ends. -/
def unifyLineFeeds : List Char → List Char
  | [] => []
  | '\r' :: '\n' :: rest => '\n' :: unifyLineFeeds rest
  | '\r' :: rest => '\n' :: unifyLineFeeds rest
  | c :: rest => c :: unifyLineFeeds rest

/-- What follows a comment behind its opening mark: two dashes must end it. -/
def passComment (cs : List Char) : Reading (List Char) :=
  match cutChars? ['-', '-'] cs with
  | some (text, '>' :: rest) => if text.all isXmlChar then .ok rest else malformed
  | _ => malformed

/-- The target and the content of a processing instruction behind its opening mark. -/
def takeInstruction (cs : List Char) : Reading (String × List Char × List Char) := do
  let (target, rest) ← require (takeName cs)
  match rest with
  | '?' :: '>' :: rest => return (target, [], rest)
  | c :: rest =>
    if isXmlBlank c then
      match cutChars? ['?', '>'] (c :: rest) with
      | some (content, rest) =>
        if content.all isXmlChar then return (target, content, rest) else malformed
      | none => malformed
    else malformed
  | [] => malformed

/-- Whether the target is kept for the declaration of XML itself. -/
def isReservedTarget (target : String) : Bool :=
  String.ofList (target.toList.map Char.toLower) == "xml"

/-- What follows a processing instruction behind its opening mark. -/
def passInstruction (cs : List Char) : Reading (List Char) := do
  let (target, _, rest) ← takeInstruction cs
  if isReservedTarget target then malformed else return rest

/-- The character of a number in a reference. -/
def referencedChar (code : Nat) : Reading Char :=
  if code.isValidChar && isXmlChar (Char.ofNat code) then .ok (Char.ofNat code) else malformed

/-- The digits of a number up to a semicolon, and the character with that number. -/
def numberReference (base : Nat) (cs : List Char) : Reading (Char × List Char) := do
  let digits := cs.takeWhile (isDigitIn base)
  match cs.dropWhile (isDigitIn base) with
  | ';' :: rest =>
    if digits.isEmpty then malformed else return (← referencedChar (ofDigits base digits), rest)
  | _ => malformed

/-- The characters that every document may refer to by name. -/
def namedChar? : String → Option Char
  | "amp" => some '&'
  | "lt" => some '<'
  | "gt" => some '>'
  | "quot" => some '"'
  | "apos" => some '\''
  | _ => none

/--
The characters of a reference behind its mark, and what follows it.  A name that
is not known stands for nothing where `lenient` allows it.
-/
def readReference (lenient : Bool) (cs : List Char) : Reading (List Char × List Char) := do
  match cs with
  | '#' :: 'x' :: rest => do
    let (c, rest) ← numberReference 16 rest
    return ([c], rest)
  | '#' :: rest => do
    let (c, rest) ← numberReference 10 rest
    return ([c], rest)
  | cs => do
    let (name, rest) ← require (takeName cs)
    match rest with
    | ';' :: rest =>
      match namedChar? name with
      | some c => return ([c], rest)
      | none => if lenient then return ([], rest) else malformed
    | _ => malformed

/-- The value of an attribute between its quotes: blanks of any kind become spaces. -/
def attributeText (lenient : Bool) : Nat → List Char → Reading (List Char)
  | 0, _ => malformed
  | _, [] => .ok []
  | fuel + 1, '&' :: rest => do
    let (front, rest) ← readReference lenient rest
    return front ++ (← attributeText lenient fuel rest)
  | fuel + 1, c :: rest => do
    if c == '<' || !isXmlChar c then malformed
    else return (if isXmlBlank c then ' ' else c) :: (← attributeText lenient fuel rest)

/-- A value in quotes of either kind, as written, and what follows it. -/
def takeQuoted : List Char → Option (List Char × List Char)
  | mark :: rest => if mark == '"' || mark == '\'' then cutChars? [mark] rest else none
  | [] => none

/-- Words with single spaces between them and none at the ends. -/
def squeezeSpaces (cs : List Char) : List Char :=
  let words := (splitChars [' '] 0 cs).filter fun word => !word.isEmpty
  [' '].intercalate words

end PathExpr.Format.Xml

import PathExpr.Format.Yaml.Cell
import PathExpr.Format.Yaml.Token
import PathExpr.Number.Reading
import PathExpr.Text.Utf8

/-!
# Names, tags and directives of YAML

The tokens that consist of a mark and a name: anchors, aliases, tags, and the
directives at the head of a document.
-/

namespace PathExpr.Format.Yaml

open PathExpr.Number

/-- Whether a name may hold the character. -/
def isNameChar (c : Char) : Bool :=
  ('0' ≤ c && c ≤ '9') || ('A' ≤ c && c ≤ 'Z') || ('a' ≤ c && c ≤ 'z') || c == '-' || c == '_'

/-- Whether a tag may hold the character; a percent sign introduces an escape. -/
def isTagChar (c : Char) : Bool :=
  isNameChar c || "-;/?:@&=+$,_.!~*'()[]".toList.contains c

/-- The name of an anchor or an alias behind its mark. -/
def anchorName (cells : List Cell) : Reading (String × List Cell) :=
  let name := takeChars isNameChar cells
  let rest := dropChars isNameChar cells
  let next := peek rest
  if name.isEmpty || !(isBlankOrEnd next || "?:,]\x7d%@`".toList.contains next) then malformed
  else .ok (String.ofList name, rest)

/-- The bytes of escapes in a row. -/
def escapedBytes : Nat → List Cell → Reading (List UInt8 × List Cell)
  | 0, _ => malformed
  | fuel + 1, cells =>
    if peek cells == '%' then
      let digits := ((cells.drop 1).take 2).map Cell.char
      if digits.length = 2 && digits.all (isDigitIn 16) then do
        let (bytes, rest) ← escapedBytes fuel (cells.drop 3)
        return ((ofDigits 16 digits).toUInt8 :: bytes, rest)
      else malformed
    else .ok ([], cells)

/-- The text of a tag, possibly empty. -/
def tagChars : Nat → List Cell → Reading (List Char × List Cell)
  | 0, _ => malformed
  | fuel + 1, cells =>
    let c := peek cells
    if isTagChar c then do
      let (text, rest) ← tagChars fuel (cells.drop 1)
      return (c :: text, rest)
    else if c == '%' then do
      let (bytes, rest) ← escapedBytes (cells.length + 1) cells
      match Text.decodeStrict bytes with
      | .error _ => malformed
      | .ok decoded =>
        let (text, rest) ← tagChars fuel rest
        return (decoded.toList ++ text, rest)
    else .ok ([], cells)

/-- The text of a tag, which must not be empty. -/
def tagText (cells : List Cell) : Reading (String × List Cell) := do
  let (text, rest) ← tagChars (cells.length + 1) cells
  if (cells.length == rest.length) then malformed else return (String.ofList text, rest)

/-- A handle: an exclamation mark, or a name between two of them. -/
def tagHandle (cells : List Cell) : Reading (String × List Cell) :=
  if peek cells != '!' then malformed
  else
    let rest := cells.drop 1
    if peek rest == ' ' then .ok ("!", rest)
    else
      let name := takeChars isNameChar rest
      let rest := dropChars isNameChar rest
      if peek rest == '!' then .ok (String.ofList ('!' :: name ++ ['!']), rest.drop 1)
      else malformed

/-- A tag: verbatim between angle brackets, a lone mark, or a handle and a suffix. -/
def tagToken (cells : List Cell) : Reading (Token × List Cell) := do
  let next := peekAt 1 cells
  let (handle, suffix, rest) ←
    if next == '<' then do
      let (suffix, rest) ← tagText (cells.drop 2)
      if peek rest == '>' then pure (none, suffix, rest.drop 1) else malformed
    else if isBlankOrEnd next then pure (none, "!", cells.drop 1)
    else do
      let word := takeChars (fun c => !isSpaceOrEnd c) (cells.drop 1)
      if word.contains '!' then
        let (handle, rest) ← tagHandle cells
        let (suffix, rest) ← tagText rest
        pure (some handle, suffix, rest)
      else
        let (suffix, rest) ← tagText (cells.drop 1)
        pure (some "!", suffix, rest)
  if isSpaceOrEnd (peek rest) then return (.tag handle suffix, rest) else malformed

/-- A run of digits. -/
def versionNumber (cells : List Cell) : Reading (Nat × List Cell) :=
  let digits := takeChars isDigit cells
  if digits.isEmpty then malformed
  else if digitLimit < digits.length then failWith (.tooManyDigits (some digits.length))
  else .ok (ofDigits 10 digits, dropChars isDigit cells)

/-- The directive behind its percent sign, without the rest of its line. -/
def directiveContent (cells : List Cell) : Reading (Directive × List Cell) := do
  let name := String.ofList (takeChars isNameChar cells)
  let rest := dropChars isNameChar cells
  let skipSpaces := dropChars (· == ' ')
  if name = "" || !isSpaceOrEnd (peek rest) then malformed
  else if name = "YAML" then
    let (major, rest) ← versionNumber (skipSpaces rest)
    if peek rest != '.' then malformed
    else
      let (_, rest) ← versionNumber (rest.drop 1)
      if isSpaceOrEnd (peek rest) then return (.version major, rest) else malformed
  else if name = "TAG" then
    let (handle, rest) ← tagHandle (skipSpaces rest)
    if peek rest != ' ' then malformed
    else
      let (lead, rest) ← tagText (skipSpaces rest)
      if isSpaceOrEnd (peek rest) then return (.handle handle lead, rest) else malformed
  else return (.other, dropChars (fun c => !isBreakOrEnd c) rest)

end PathExpr.Format.Yaml

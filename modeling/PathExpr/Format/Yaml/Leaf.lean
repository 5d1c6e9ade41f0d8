import PathExpr.Format.Yaml.Base64
import PathExpr.Format.Yaml.Cell
import PathExpr.Format.Yaml.Tag
import PathExpr.Text.Quoted

/-!
# Writing single values of YAML

A text stands for itself where it would be read back as the same text, between
single quotes where its characters allow it, and between double quotes otherwise.
Long texts are folded at single spaces; between double quotes a backslash at the
end of the line takes the line end back.
-/

namespace PathExpr.Format.Yaml

/-- A value without parts, as a document shows it. -/
inductive Leaf where
  /-- A text that is read back with the given type. -/
  | word (tag : Tag) (chars : List Char)
  | text (chars : List Char)
  /-- Bytes, as the characters that carry them. -/
  | binary (chars : List Char)

/-- The width at which lines are folded. -/
def lineWidth : Nat := 80

/-- Whether the character ends a line when it is written. -/
def isWrittenBreak (c : Char) : Bool :=
  isBreak c || c == '\x85'

/-- Whether an indicator next to the character counts as one. -/
def isGap (c : Char) : Bool :=
  isWrittenBreak c || c == '\x00' || c == ' ' || c == '\t' || c == '\r'

/-- Whether the character can be written without an escape. -/
def isClear (c : Char) : Bool :=
  let code := c.toNat
  c == '\n' || (0x20 ≤ code && code ≤ 0x7e) || code == 0x85 ||
  (((0xa0 ≤ code && code ≤ 0xd7ff) || (0xe000 ≤ code && code ≤ 0xfffd) ||
    (0x10000 ≤ code && code < 0x10ffff)) && c != byteOrderMark)

/-- The characters that begin something else than a plain text. -/
def leadIndicators : List Char :=
  "#,[]\x7b\x7d&*!|>'\"%@\x60".toList

/-- Whether a gap or nothing follows. -/
def gapFollows (rest : List Char) : Bool :=
  match rest with
  | [] => true
  | c :: _ => isGap c

/-- Whether something inside the text would end it: a colon before a gap or a hash behind one. -/
def hasInnerIndicator : (previous : Char) → List Char → Bool
  | _, [] => false
  | previous, c :: rest =>
    (c == ':' && gapFollows rest) || (c == '#' && isGap previous) || hasInnerIndicator c rest

/-- Whether the text begins or ends something else when it stands without quotes. -/
def hasIndicator (cs : List Char) : Bool :=
  match cs with
  | [] => false
  | c :: rest =>
    cs.take 3 == ['-', '-', '-'] || cs.take 3 == ['.', '.', '.'] ||
    leadIndicators.contains c ||
    ((c == '?' || c == ':' || c == '-') && gapFollows rest) || hasInnerIndicator c rest

/-- Whether a space and a line end stand next to each other. -/
def hasSpaceAtBreak : List Char → Bool
  | a :: b :: rest =>
    (a == ' ' && isWrittenBreak b) || (isWrittenBreak a && b == ' ') || hasSpaceAtBreak (b :: rest)
  | _ => false

/-- Whether the text may stand between single quotes. -/
def allowsSingleQuotes (cs : List Char) : Bool :=
  cs.all isClear && !hasSpaceAtBreak cs

/-- Whether the text may stand without quotes, by its characters alone. -/
def allowsPlain (cs : List Char) : Bool :=
  cs.all isClear && !cs.any isWrittenBreak && cs.head? != some ' ' && cs.getLast? != some ' ' &&
  !hasIndicator cs

/-- How a text is written. -/
inductive Style where
  | plain
  | single
  | double
  deriving Repr, DecidableEq

/-- The plainest style in which the text is read back as itself. -/
def styleOf (cs : List Char) : Style :=
  if Tag.ofPlain (String.ofList cs) = .str && allowsPlain cs then .plain
  else if allowsSingleQuotes cs then .single
  else .double

/-- A stretch of characters of one kind. -/
inductive Run where
  | spaces (count : Nat)
  | breaks (chars : List Char)
  | word (chars : List Char)
  deriving Repr, DecidableEq

/-- The stretches of a text. -/
def runsOf : List Char → List Run
  | [] => []
  | c :: rest =>
    if c = ' ' then
      match runsOf rest with
      | .spaces count :: runs => .spaces (count + 1) :: runs
      | runs => .spaces 1 :: runs
    else if isWrittenBreak c then
      match runsOf rest with
      | .breaks cs :: runs => .breaks (c :: cs) :: runs
      | runs => .breaks [c] :: runs
    else
      match runsOf rest with
      | .word cs :: runs => .word (c :: cs) :: runs
      | runs => .word [c] :: runs

/-- So many spaces. -/
def blanks (count : Nat) : List Char :=
  List.replicate count ' '

/--
Writes stretches from a column on.  A single space between two others may become
a line end, and line feeds are doubled up so that they survive the folding.
-/
def foldRuns (mayFold : Bool) (indent : Nat) : (column : Nat) → (isFirst : Bool) → List Run →
    List Char
  | _, _, [] => []
  | column, isFirst, .spaces count :: rest =>
    if count == 1 && lineWidth < column && mayFold && !isFirst && !rest.isEmpty then
      '\n' :: blanks indent ++ foldRuns mayFold indent indent false rest
    else blanks count ++ foldRuns mayFold indent (column + count) false rest
  | _, _, .breaks cs :: rest =>
    (if cs.head? = some '\n' then ['\n'] else []) ++ cs ++ blanks indent ++
      foldRuns mayFold indent indent false rest
  | column, _, .word cs :: rest =>
    cs ++ foldRuns mayFold indent (column + cs.length) false rest

/-- A text without quotes. -/
def writePlain (mayFold : Bool) (indent column : Nat) (cs : List Char) : List Char :=
  foldRuns mayFold indent column true (runsOf cs)

/-- Every single quote doubled. -/
def doubleQuotes (cs : List Char) : List Char :=
  cs.flatMap fun c => if c = '\'' then ['\'', '\''] else [c]

/-- A text between single quotes. -/
def writeSingle (mayFold : Bool) (indent column : Nat) (cs : List Char) : List Char :=
  '\'' :: foldRuns mayFold indent (column + 1) true (runsOf (doubleQuotes cs)) ++ ['\'']

/-- The letters of the short escapes. -/
def shortEscapes : List (Char × Char) := [
  ('\x00', '0'), ('\x07', 'a'), ('\x08', 'b'), ('\t', 't'), ('\n', 'n'), ('\x0b', 'v'),
  ('\x0c', 'f'), ('\r', 'r'), ('\x1b', 'e'), ('"', '"'), ('\\', '\\'), ('\x85', 'N'),
  ('\xa0', '_'), ('\u2028', 'L'), ('\u2029', 'P')]

/-- Whether the character stands for itself between double quotes. -/
def isSelfQuoted (c : Char) : Bool :=
  let code := c.toNat
  c != '"' && c != '\\' && c != '\u2028' && c != '\u2029' && c != byteOrderMark &&
  ((0x20 ≤ code && code ≤ 0x7e) || (0xa0 ≤ code && code ≤ 0xd7ff) ||
    (0xe000 ≤ code && code ≤ 0xfffd))

/-- The last `width` hexadecimal digits of a number, with capital letters. -/
def hexCapital (width n : Nat) : List Char :=
  (Text.hexPadded width n).map Char.toUpper

/-- The escape of a character. -/
def escapeOf (c : Char) : List Char :=
  match shortEscapes.lookup c with
  | some letter => ['\\', letter]
  | none =>
    let code := c.toNat
    if code ≤ 0xff then '\\' :: 'x' :: hexCapital 2 code
    else if code ≤ 0xffff then '\\' :: 'u' :: hexCapital 4 code
    else '\\' :: 'U' :: hexCapital 8 code

/-- A fold between double quotes; a space that begins the next line is marked. -/
def foldMark (indent : Nat) (spaceNext : Bool) : List Char :=
  '\\' :: '\n' :: blanks indent ++ if spaceNext then ['\\'] else []

/--
Writes the characters between double quotes from a column on.  A line that is
too wide is folded before a space, before the first character behind an escape,
or behind an escape, but never at the first character or the last.
-/
def foldDouble (mayFold : Bool) (indent : Nat) : (column : Nat) → (afterEscape isFirst : Bool) →
    List Char → List Char
  | _, _, _, [] => []
  | column, afterEscape, isFirst, c :: rest =>
    let inside := mayFold && !isFirst && !rest.isEmpty
    if isSelfQuoted c then
      if inside && (c == ' ' || afterEscape) && lineWidth < column then
        let mark := foldMark indent (c == ' ')
        mark ++ c :: foldDouble mayFold indent (mark.length - 1) false false rest
      else c :: foldDouble mayFold indent (column + 1) false false rest
    else
      let escape := escapeOf c
      let column := column + escape.length
      -- The escape itself is behind the place that the width is measured at.
      if inside && lineWidth + 1 < column then
        let mark := foldMark indent (rest.head? == some ' ')
        escape ++ mark ++ foldDouble mayFold indent (mark.length - 2) true false rest
      else escape ++ foldDouble mayFold indent column true false rest

/-- A text between double quotes. -/
def writeDouble (mayFold : Bool) (indent column : Nat) (cs : List Char) : List Char :=
  '"' :: foldDouble mayFold indent (column + 1) false true cs ++ ['"']

/-- A text in its style, from a column on; further lines are indented. -/
def writeText (mayFold : Bool) (indent column : Nat) (cs : List Char) : List Char :=
  match styleOf cs with
  | .plain => writePlain mayFold indent column cs
  | .single => writeSingle mayFold indent column cs
  | .double => writeDouble mayFold indent column cs

/-- The mark of bytes. -/
def binaryMark : List Char :=
  "!!binary ".toList

/-- Characters in indented lines of seventy-six; the number bounds the lines. -/
def binaryLines (indent : Nat) : Nat → List Char → List Char
  | 0, _ => []
  | bound + 1, cs =>
    if cs.isEmpty then []
    else blanks indent ++ cs.take 76 ++ '\n' :: binaryLines indent bound (cs.drop 76)

namespace Leaf

/-- A leaf and the end of its last line. -/
def write (indent column : Nat) : Leaf → List Char
  | word _ cs => writePlain true indent column cs ++ ['\n']
  | text cs => writeText true indent column cs ++ ['\n']
  | binary [] => binaryMark ++ ['"', '"', '\n']
  | binary cs => binaryMark ++ '|' :: '\n' :: binaryLines indent cs.length cs

/-- A leaf as a key on one line. -/
def writeKey : Leaf → List Char
  | word _ cs => cs
  | text cs => writeText false 0 0 cs
  | binary cs => binaryMark ++ cs

/-- The length of the name of a type, marks included. -/
def tagWidth : Tag → Nat
  | .null => 6
  | .bool => 6
  | .float => 7
  | .timestamp => 11
  | _ => 5

/-- The width that a key on one line stays below, the name of its type included. -/
def keyWidth : Nat := 128

/-- Whether the leaf can be a key on one line. -/
def isSimpleKey : Leaf → Bool
  | word tag cs => cs.length + tagWidth tag < keyWidth
  | text cs => !cs.isEmpty && !cs.any isWrittenBreak && cs.length + 5 < keyWidth
  | binary _ => false

end Leaf

end PathExpr.Format.Yaml

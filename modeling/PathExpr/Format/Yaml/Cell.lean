/-!
# Characters with their places

A YAML document is read as a list of cells: characters that know their line,
their column and their distance from the start.  All line ends except the two
separators of Unicode are one and the same, and a final cell marks the end of
the document.
-/

namespace PathExpr.Format.Yaml

/-- A character and its place. -/
structure Cell where
  char : Char
  index : Nat
  line : Nat
  column : Nat
  deriving Repr, DecidableEq

/-- The character of the cell that ends a document. -/
def endChar : Char := '\x00'

/-- Whether a document may hold the character. -/
def isAllowed (c : Char) : Bool :=
  let code := c.toNat
  code == 9 || code == 10 || code == 13 || (32 ≤ code && code ≤ 0x7e) || code == 0x85 ||
  (0xa0 ≤ code && code ≤ 0xd7ff) || (0xe000 ≤ code && code ≤ 0xfffd) || 0x10000 ≤ code

/-- The mark for the order of bytes, which takes no column. -/
def byteOrderMark : Char := '\uFEFF'

/-- The characters with every common line end written as a line feed. -/
def unifyBreaks : List Char → List Char
  | [] => []
  | '\r' :: '\n' :: rest => '\n' :: unifyBreaks rest
  | '\r' :: rest => '\n' :: unifyBreaks rest
  | '\x85' :: rest => '\n' :: unifyBreaks rest
  | c :: rest => c :: unifyBreaks rest

/-- Whether the character ends a line. -/
def isBreak (c : Char) : Bool :=
  c == '\n' || c == '\u2028' || c == '\u2029'

/-- The cells of characters from a place on. -/
def cellsFrom (index line column : Nat) : List Char → List Cell
  | [] => [⟨endChar, index, line, column⟩]
  | c :: rest =>
    ⟨c, index, line, column⟩ ::
      if isBreak c then cellsFrom (index + 1) (line + 1) 0 rest
      else cellsFrom (index + 1) line (if c = byteOrderMark then column else column + 1) rest

/-- The cells of a document, without a byte-order mark at its start. -/
def cellsOf (cs : List Char) : List Cell :=
  match cellsFrom 0 0 0 (unifyBreaks cs) with
  | ⟨c, index, line, column⟩ :: rest =>
    if c = byteOrderMark then rest else ⟨c, index, line, column⟩ :: rest
  | [] => []

/-- The character at the start of the cells. -/
def peek : List Cell → Char
  | [] => endChar
  | cell :: _ => cell.char

/-- The character at a distance from the start of the cells. -/
def peekAt (distance : Nat) (cells : List Cell) : Char :=
  peek (cells.drop distance)

/-- The column of the start of the cells. -/
def columnOf : List Cell → Nat
  | [] => 0
  | cell :: _ => cell.column

/-- Whether the character ends a line or the document. -/
def isBreakOrEnd (c : Char) : Bool :=
  isBreak c || c == endChar

/-- Whether the character is a space or ends a line or the document. -/
def isSpaceOrEnd (c : Char) : Bool :=
  c == ' ' || isBreakOrEnd c

/-- Whether the character is a space or a tab or ends a line or the document. -/
def isBlankOrEnd (c : Char) : Bool :=
  c == '\t' || isSpaceOrEnd c

/-- The longest run of cells at the start whose characters satisfy the test. -/
def takeChars (test : Char → Bool) (cells : List Cell) : List Char :=
  (cells.takeWhile fun cell => test cell.char).map Cell.char

/-- What follows that run. -/
def dropChars (test : Char → Bool) (cells : List Cell) : List Cell :=
  cells.dropWhile fun cell => test cell.char

/-- Whether three characters and something blank stand at the start. -/
def startsMarker (c : Char) (cells : List Cell) : Bool :=
  peek cells == c && peekAt 1 cells == c && peekAt 2 cells == c && isBlankOrEnd (peekAt 3 cells)

/-- Whether the mark of a document's start or end stands here. -/
def startsDocumentMarker (cells : List Cell) : Bool :=
  startsMarker '-' cells || startsMarker '.' cells

/-- What follows the gaps, comments and line ends here, and whether a line has ended. -/
def skipGap (inComment ended : Bool) : List Cell → Bool × List Cell
  | [] => (ended, [])
  | cell :: rest =>
    if isBreak cell.char then skipGap false true rest
    else if inComment then
      if cell.char = endChar then (ended, cell :: rest) else skipGap true ended rest
    else if cell.char = ' ' then skipGap false ended rest
    else if cell.char = '#' then skipGap true ended rest
    else (ended, cell :: rest)

end PathExpr.Format.Yaml

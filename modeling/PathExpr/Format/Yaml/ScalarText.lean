import PathExpr.Format.Reading
import PathExpr.Format.Yaml.Cell
import PathExpr.Number.Reading

/-!
# Scalars of YAML

The text of a scalar in each of its styles: quoted, plain, and as an indented
block.  Line ends inside a quoted or plain scalar are folded: one becomes a
space, several lose the first.
-/

namespace PathExpr.Format.Yaml

open PathExpr.Number

/-- Whether the character is a space or a tab. -/
def isSpaceOrTab (c : Char) : Bool :=
  c == ' ' || c == '\t'

/-- What a line end and the empty lines after it fold to. -/
def foldBreaks (first : Char) (others : List Char) : List Char :=
  if first ≠ '\n' then first :: others
  else if others.isEmpty then [' ']
  else others

/-- The empty lines inside a quoted scalar; the mark of a document must not start a line. -/
def quotedBreaks : Nat → List Cell → Reading (List Char × List Cell)
  | 0, _ => malformed
  | fuel + 1, cells =>
    if startsDocumentMarker cells then malformed
    else
      match dropChars isSpaceOrTab cells with
      | cell :: rest =>
        if isBreak cell.char then do
          let (breaks, rest) ← quotedBreaks fuel rest
          return (cell.char :: breaks, rest)
        else return ([], cell :: rest)
      | [] => return ([], [])

/-- The character that a letter behind a backslash stands for. -/
def escapeChar? : Char → Option Char
  | '0' => some '\x00'
  | 'a' => some '\x07'
  | 'b' => some '\x08'
  | 't' => some '\t'
  | '\t' => some '\t'
  | 'n' => some '\n'
  | 'v' => some '\x0b'
  | 'f' => some '\x0c'
  | 'r' => some '\r'
  | 'e' => some '\x1b'
  | ' ' => some ' '
  | '"' => some '"'
  | '\\' => some '\\'
  | '/' => some '/'
  | 'N' => some '\x85'
  | '_' => some '\xa0'
  | 'L' => some '\u2028'
  | 'P' => some '\u2029'
  | _ => none

/-- The number of digits behind the mark of a numbered escape. -/
def escapeDigits? : Char → Option Nat
  | 'x' => some 2
  | 'u' => some 4
  | 'U' => some 8
  | _ => none

/-- The character of a numbered escape; a number beyond all characters is a fault. -/
def numberedChar (code : Nat) : Reading Char :=
  if 0x7fffffff < code then failWith .codeTooLarge
  else if 0x10ffff < code then failWith .codePoint
  else if 0xd800 ≤ code && code ≤ 0xdfff then .ok '\uFFFD'
  else .ok (Char.ofNat code)

/-- The text of a quoted scalar behind its opening quote. -/
def quotedText (double : Bool) : Nat → List Cell → Reading (List Char × List Cell)
  | 0, _ => malformed
  | fuel + 1, cells =>
    let c := peek cells
    let rest := cells.drop 1
    let more := fun (front : List Char) (rest : List Cell) => do
      let (text, rest) ← quotedText double fuel rest
      return (front ++ text, rest)
    if !double && c == '\'' then
      if peek rest == '\'' then more ['\''] (rest.drop 1) else return ([], rest)
    else if double && c == '"' then return ([], rest)
    else if double && c == '\\' then
      let e := peek rest
      match escapeChar? e, escapeDigits? e with
      | some replaced, _ => more [replaced] (rest.drop 1)
      | none, some width => do
        let digits := ((rest.drop 1).take width).map Cell.char
        if digits.length = width && digits.all (isDigitIn 16) then
          let decoded ← numberedChar (ofDigits 16 digits)
          more [decoded] (rest.drop (1 + width))
        else malformed
      | none, none =>
        if isBreak e then do
          let (breaks, rest) ← quotedBreaks (rest.length + 1) (rest.drop 1)
          more breaks rest
        else malformed
    else if isBlankOrEnd c then
      let blanks := takeChars isSpaceOrTab cells
      let rest := dropChars isSpaceOrTab cells
      let next := peek rest
      if next == endChar then malformed
      else if isBreak next then do
        let (breaks, rest) ← quotedBreaks (rest.length + 1) (rest.drop 1)
        more (foldBreaks next breaks) rest
      else more blanks rest
    else more [c] rest

/-- Whether a plain scalar goes on with the character at the start. -/
def plainGoesOn (inFlow : Bool) (cells : List Cell) : Bool :=
  let c := peek cells
  if isBlankOrEnd c then false
  else if c == ':' then
    let next := peekAt 1 cells
    !(isBlankOrEnd next || (inFlow && [',', '[', ']', '\x7b', '\x7d'].contains next)) 
  else !(inFlow && [',', '?', '[', ']', '\x7b', '\x7d'].contains c)

/-- The characters of a plain scalar up to the next gap or mark. -/
def plainRun (inFlow : Bool) : List Cell → List Char × List Cell
  | [] => ([], [])
  | cell :: rest =>
    if plainGoesOn inFlow (cell :: rest) then
      let (run, rest) := plainRun inFlow rest
      (cell.char :: run, rest)
    else ([], cell :: rest)

/-- The empty lines inside a plain scalar; the flag tells that a document's mark was met. -/
def plainBreaks : Nat → List Cell → List Char × Bool × List Cell
  | 0, cells => ([], false, cells)
  | fuel + 1, cells =>
    match dropChars (· == ' ') cells with
    | cell :: rest =>
      if isBreak cell.char then
        if startsDocumentMarker rest then ([], true, rest)
        else
          let (breaks, met, rest) := plainBreaks fuel rest
          (cell.char :: breaks, met, rest)
      else ([], false, cell :: rest)
    | [] => ([], false, [])

/-- A gap inside a plain scalar. -/
structure PlainGap where
  /-- What the gap becomes inside the scalar; nothing when the scalar ends here. -/
  text : List Char
  /-- Whether a line has ended. -/
  ended : Bool
  rest : List Cell

/-- The gap at the start. -/
def plainGap (cells : List Cell) : PlainGap :=
  let spaces := takeChars (· == ' ') cells
  let after := dropChars (· == ' ') cells
  let next := peek after
  if isBreak next then
    let after := after.drop 1
    if startsDocumentMarker after then ⟨[], true, after⟩
    else
      let (breaks, met, rest) := plainBreaks (after.length + 1) after
      ⟨if met then [] else foldBreaks next breaks, true, rest⟩
  else ⟨spaces, false, after⟩

/-- A plain scalar: its text, whether the gap behind it ended a line, and what follows. -/
structure PlainScalar where
  text : List Char
  ended : Bool
  rest : List Cell

/--
The plain scalar at the start, all of whose lines are indented by `indent`
columns at least.  The gap is what stands before the next run of characters.
-/
def plainScalar (inFlow : Bool) (indent : Int) :
    (fuel : Nat) → (gap : List Char) → (ended : Bool) → List Cell → PlainScalar
  | 0, _, ended, cells => ⟨[], ended, cells⟩
  | fuel + 1, gap, ended, cells =>
    if peek cells == '#' then ⟨[], ended, cells⟩
    else
      let (run, rest) := plainRun inFlow cells
      if run.isEmpty then ⟨[], ended, cells⟩
      else
        let next := plainGap rest
        let text := gap ++ run
        if next.text.isEmpty || peek next.rest == '#' ||
            (!inFlow && (columnOf next.rest : Int) < indent) then
          ⟨text, next.ended, next.rest⟩
        else
          let more := plainScalar inFlow indent fuel next.text next.ended next.rest
          ⟨text ++ more.text, more.ended, more.rest⟩

/-- What becomes of the line ends at the end of a block. -/
inductive Chomping where
  | strip
  | clip
  | keep
  deriving Repr, DecidableEq

/-- The chomping that a sign asks for. -/
def Chomping.ofSign? : Char → Option Chomping
  | '+' => some .keep
  | '-' => some .strip
  | _ => none

/-- The sign and the digit behind the mark of a block, in either order. -/
def blockHeader (cells : List Cell) : Reading (Chomping × Option Nat × List Cell) := do
  let digit? : Char → Option Nat := fun c => if isDigit c then some (c.toNat - 48) else none
  let c := peek cells
  let d := peekAt 1 cells
  let (chomping, increment, rest) :=
    match Chomping.ofSign? c, digit? c with
    | some chomping, _ =>
      match digit? d with
      | some n => (chomping, some n, cells.drop 2)
      | none => (chomping, none, cells.drop 1)
    | none, some n =>
      match Chomping.ofSign? d with
      | some chomping => (chomping, some n, cells.drop 2)
      | none => (Chomping.clip, some n, cells.drop 1)
    | none, none => (Chomping.clip, none, cells)
  if increment = some 0 || !isSpaceOrEnd (peek rest) then malformed
  else return (chomping, increment, rest)

/-- The rest of a line that may hold a comment and nothing else, passed over. -/
def skipRestOfLine (cells : List Cell) : Reading (List Cell) :=
  let cells := dropChars (· == ' ') cells
  let cells :=
    if peek cells == '#' then dropChars (fun c => !isBreakOrEnd c) cells else cells
  if isBreak (peek cells) then .ok (cells.drop 1)
  else if peek cells == endChar then .ok cells
  else malformed

/-- The empty lines at the start of a block whose indentation is not given, and the widest. -/
def blockIndentation : Nat → List Cell → List Char × Nat × List Cell
  | 0, cells => ([], 0, cells)
  | fuel + 1, cells =>
    let c := peek cells
    if c == ' ' then
      let (breaks, widest, rest) := blockIndentation fuel (cells.drop 1)
      (breaks, max widest (columnOf (cells.drop 1)), rest)
    else if isBreak c then
      let (breaks, widest, rest) := blockIndentation fuel (cells.drop 1)
      (c :: breaks, widest, rest)
    else ([], 0, cells)

/-- What follows the spaces in front of a column. -/
def skipIndent (indent : Nat) : List Cell → List Cell
  | [] => []
  | cell :: rest =>
    if cell.char = ' ' && cell.column < indent then skipIndent indent rest else cell :: rest

/-- The empty lines inside a block. -/
def blockBreaks (indent : Nat) : Nat → List Cell → List Char × List Cell
  | 0, cells => ([], cells)
  | fuel + 1, cells =>
    match skipIndent indent cells with
    | cell :: rest =>
      if isBreak cell.char then
        let (breaks, rest) := blockBreaks indent fuel rest
        (cell.char :: breaks, rest)
      else ([], cell :: rest)
    | [] => ([], [])

/-- The lines of a block: `breaks` are the empty lines before the first of them. -/
def blockLines (isFolded : Bool) (chomping : Chomping) (indent : Nat) :
    (fuel : Nat) → (breaks : List Char) → (lineEnd : List Char) → List Cell →
    List Char × List Cell
  | 0, _, _, cells => ([], cells)
  | fuel + 1, breaks, lineEnd, cells =>
    if columnOf cells = indent && peek cells != endChar then
      let line := takeChars (fun c => !isBreakOrEnd c) cells
      let rest := dropChars (fun c => !isBreakOrEnd c) cells
      let flush := !isSpaceOrTab (peek cells)
      let (ending, rest) :=
        if isBreak (peek rest) then ([peek rest], rest.drop 1) else ([], rest)
      let (next, rest) := blockBreaks indent (rest.length + 1) rest
      if columnOf rest = indent && peek rest != endChar then
        let folds := isFolded && ending == ['\n'] && flush && !isSpaceOrTab (peek rest)
        let joint := if folds then (if next.isEmpty then [' '] else []) else ending
        let (more, rest) := blockLines isFolded chomping indent fuel next ending rest
        (breaks ++ line ++ joint ++ more, rest)
      else
        let tail := match chomping with
          | .strip => []
          | .clip => ending
          | .keep => ending ++ next
        (breaks ++ line ++ tail, rest)
    else
      let tail := match chomping with
        | .strip => []
        | .clip => lineEnd
        | .keep => lineEnd ++ breaks
      (tail, cells)

/-- The text of a block behind its mark, in a collection at the given indentation. -/
def blockText (isFolded : Bool) (parent : Int) (cells : List Cell) :
    Reading (List Char × List Cell) := do
  let (chomping, increment, rest) ← blockHeader cells
  let rest ← skipRestOfLine rest
  let least := max (parent + 1).toNat 1
  let fuel := rest.length + 1
  let (indent, breaks, rest) := match increment with
    | none =>
      let (breaks, widest, rest) := blockIndentation fuel rest
      (max least widest, breaks, rest)
    | some n =>
      let indent := least + n - 1
      let (breaks, rest) := blockBreaks indent fuel rest
      (indent, breaks, rest)
  return blockLines isFolded chomping indent (rest.length + 1) breaks [] rest

end PathExpr.Format.Yaml

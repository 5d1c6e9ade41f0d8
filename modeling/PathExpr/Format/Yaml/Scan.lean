import PathExpr.Format.Yaml.Markers
import PathExpr.Format.Yaml.ScalarText

/-!
# From cells to tokens

Indentation opens and closes block collections.  A key that is not marked as one
is recognised only by the colon behind it: the scan remembers where such a key
may have begun, and puts the mark there when the colon comes.
-/

namespace PathExpr.Format.Yaml

/-- A place where an unmarked key may have begun. -/
structure KeyCandidate where
  /-- The number of flow collections around it. -/
  level : Nat
  /-- The number of tokens before it. -/
  position : Nat
  /-- Whether the block around it allows nothing but a key here. -/
  required : Bool
  index : Nat
  line : Nat
  column : Nat
  deriving Repr, DecidableEq

/-- The state of a scan. -/
structure Scan where
  cells : List Cell
  /-- The tokens so far, latest first, and their number. -/
  tokens : List Token
  count : Nat
  /-- The number of flow collections around this place. -/
  level : Nat
  /-- The column of the block around this place, and those of the blocks around that. -/
  indent : Int
  outer : List Int
  /-- Whether an unmarked key may begin here. -/
  keyAllowed : Bool
  candidates : List KeyCandidate

namespace Scan

/-- The state before the first token. -/
def start (cells : List Cell) : Scan :=
  ⟨cells, [], 0, 0, -1, [], true, []⟩

/-- Whether the place lies inside a flow collection. -/
def inFlow (scan : Scan) : Bool := 0 < scan.level

/-- The column of this place. -/
def column (scan : Scan) : Nat := columnOf scan.cells

/-- Adds a token. -/
def push (scan : Scan) (token : Token) : Scan :=
  { scan with tokens := token :: scan.tokens, count := scan.count + 1 }

/-- Puts a token before all but the first `position` tokens. -/
def insertAt (scan : Scan) (position : Nat) (token : Token) : Scan :=
  let later := scan.count - position
  { scan with
    tokens := scan.tokens.take later ++ token :: scan.tokens.drop later
    count := scan.count + 1 }

/-- Passes over characters. -/
def advance (scan : Scan) (length : Nat) : Scan :=
  { scan with cells := scan.cells.drop length }

/-- Closes the blocks that are indented further than a column. -/
def unwindFrom (column : Int) : List Int → Scan → Scan
  | [], scan => scan
  | next :: outer, scan =>
    if column < scan.indent then
      unwindFrom column outer { scan.push .blockEnd with indent := next, outer := outer }
    else scan

/-- Closes the blocks that are indented further than a column, outside flow collections. -/
def unwind (scan : Scan) (column : Int) : Scan :=
  if scan.inFlow then scan else unwindFrom column scan.outer scan

/-- Whether a column opens a block. -/
def opens (scan : Scan) (column : Nat) : Bool :=
  scan.indent < column

/-- Opens a block at a column. -/
def addIndent (scan : Scan) (column : Nat) : Scan :=
  { scan with indent := column, outer := scan.indent :: scan.outer }

/-- Whether a colon at this place can no longer make the candidate a key. -/
def isStale (scan : Scan) (key : KeyCandidate) : Bool :=
  match scan.cells with
  | [] => false
  | cell :: _ => key.line != cell.line || key.index + 1024 < cell.index

/-- Drops the candidates that a colon can no longer make keys. -/
def dropStale (scan : Scan) : Reading Scan :=
  if scan.candidates.any fun key => scan.isStale key && key.required then malformed
  else .ok { scan with candidates := scan.candidates.filter fun key => !scan.isStale key }

/-- Drops the candidate of this level. -/
def dropCandidate (scan : Scan) : Reading Scan :=
  if scan.candidates.any fun key => key.level == scan.level && key.required then malformed
  else .ok { scan with
    candidates := scan.candidates.filter fun key => key.level != scan.level }

/-- Remembers this place as a candidate. -/
def saveCandidate (scan : Scan) : Reading Scan := do
  match scan.cells with
  | [] => return scan
  | cell :: _ =>
    if scan.keyAllowed then
      let required := !scan.inFlow && scan.indent == cell.column
      let cleared ← scan.dropCandidate
      return { cleared with candidates :=
        ⟨scan.level, scan.count, required, cell.index, cell.line, cell.column⟩ ::
          cleared.candidates }
    else return scan

/-- Allows or forbids an unmarked key at the next place. -/
def allowKey (scan : Scan) (allowed : Bool) : Scan :=
  { scan with keyAllowed := allowed }

/-- The mark of a document's start or end. -/
def documentMarker (scan : Scan) (token : Token) : Reading Scan := do
  let scan ← (scan.unwind (-1)).dropCandidate
  return ((scan.allowKey false).advance 3).push token

/-- A directive and the rest of its line. -/
def directive (scan : Scan) : Reading Scan := do
  let scan ← (scan.unwind (-1)).dropCandidate
  let (content, rest) ← directiveContent (scan.cells.drop 1)
  let rest ← skipRestOfLine rest
  return { (scan.allowKey false).push (.directive content) with cells := rest }

/-- The opening mark of a flow collection. -/
def flowStart (scan : Scan) (token : Token) : Reading Scan := do
  let scan ← scan.saveCandidate
  return { ((scan.allowKey true).advance 1).push token with level := scan.level + 1 }

/-- The closing mark of a flow collection. -/
def flowEnd (scan : Scan) (token : Token) : Reading Scan := do
  let scan ← scan.dropCandidate
  return { ((scan.allowKey false).advance 1).push token with level := scan.level - 1 }

/-- The mark between items of a flow collection. -/
def flowEntry (scan : Scan) : Reading Scan := do
  let scan ← scan.dropCandidate
  return ((scan.allowKey true).advance 1).push .flowEntry

/-- Opens a block here, where one may open. -/
def openBlock (scan : Scan) (token : Token) : Reading Scan :=
  if scan.inFlow then .ok scan
  else if !scan.keyAllowed then malformed
  else if scan.opens scan.column then .ok ((scan.addIndent scan.column).push token)
  else .ok scan

/-- The mark of an item of a block sequence. -/
def blockEntry (scan : Scan) : Reading Scan := do
  let scan ← scan.openBlock .blockSequenceStart
  let scan ← scan.dropCandidate
  return ((scan.allowKey true).advance 1).push .blockEntry

/-- The mark of a key. -/
def keyMark (scan : Scan) : Reading Scan := do
  let scan ← scan.openBlock .blockMappingStart
  let scan ← scan.dropCandidate
  return ((scan.allowKey (!scan.inFlow)).advance 1).push .key

/-- The mark of a value: what stands before it on the line becomes a key. -/
def valueMark (scan : Scan) : Reading Scan := do
  match scan.candidates.find? fun key => key.level == scan.level with
  | some key =>
    let scan := { scan with candidates := scan.candidates.filter (·.level != scan.level) }
    let scan := scan.insertAt key.position .key
    let scan :=
      if !scan.inFlow && scan.opens key.column then
        (scan.addIndent key.column).insertAt key.position .blockMappingStart
      else scan
    return ((scan.allowKey false).advance 1).push .value
  | none =>
    let scan ← scan.openBlock .blockMappingStart
    let scan ← scan.dropCandidate
    return ((scan.allowKey (!scan.inFlow)).advance 1).push .value

/-- A token that may begin a key. -/
def keyPart (scan : Scan) (read : List Cell → Reading (Token × List Cell)) : Reading Scan := do
  let scan ← scan.saveCandidate
  let (token, rest) ← read scan.cells
  return { (scan.allowKey false).push token with cells := rest }

/-- A block scalar. -/
def blockScalar (scan : Scan) (isFolded : Bool) : Reading Scan := do
  let scan ← (scan.allowKey true).dropCandidate
  let (text, rest) ← blockText isFolded scan.indent (scan.cells.drop 1)
  return { scan.push (.scalar (String.ofList text) false) with cells := rest }

/-- A quoted scalar. -/
def quotedScalar (scan : Scan) (double : Bool) : Reading Scan :=
  scan.keyPart fun cells => do
    let (text, rest) ← quotedText double (cells.length + 1) (cells.drop 1)
    return (.scalar (String.ofList text) false, rest)

/-- A plain scalar. -/
def plain (scan : Scan) : Reading Scan := do
  let scan ← scan.saveCandidate
  let found := plainScalar scan.inFlow (scan.indent + 1) (scan.cells.length + 1) [] false
    scan.cells
  return { (scan.allowKey found.ended).push (.scalar (String.ofList found.text) true) with
    cells := found.rest }

/-- Whether a plain scalar begins here. -/
def startsPlain (scan : Scan) : Bool :=
  let c := peek scan.cells
  let marks := "-?:,[]\x7b\x7d#&*!|>'\"%@`".toList
  !(isBlankOrEnd c || marks.contains c) ||
  (!isBlankOrEnd (peekAt 1 scan.cells) && (c == '-' || (!scan.inFlow && (c == '?' || c == ':'))))

/-- Whether a mark stands here, and not the beginning of a plain scalar. -/
def startsMark (scan : Scan) (mark : Char) (loose : Bool) : Bool :=
  peek scan.cells == mark && (loose || isBlankOrEnd (peekAt 1 scan.cells))

/-- The token that begins here. -/
def fetch (scan : Scan) : Reading Scan :=
  let c := peek scan.cells
  if c == '%' && scan.column == 0 then scan.directive
  else if scan.column == 0 && startsMarker '-' scan.cells then scan.documentMarker .documentStart
  else if scan.column == 0 && startsMarker '.' scan.cells then scan.documentMarker .documentEnd
  else if c == '[' then scan.flowStart .flowSequenceStart
  else if c == '\x7b' then scan.flowStart .flowMappingStart
  else if c == ']' then scan.flowEnd .flowSequenceEnd
  else if c == '\x7d' then scan.flowEnd .flowMappingEnd
  else if c == ',' then scan.flowEntry
  else if scan.startsMark '-' false then scan.blockEntry
  else if scan.startsMark '?' scan.inFlow then scan.keyMark
  else if scan.startsMark ':' scan.inFlow then scan.valueMark
  else if c == '*' then
    scan.keyPart fun cells => do
      let (name, rest) ← anchorName (cells.drop 1)
      return (.alias name, rest)
  else if c == '&' then
    scan.keyPart fun cells => do
      let (name, rest) ← anchorName (cells.drop 1)
      return (.anchor name, rest)
  else if c == '!' then scan.keyPart tagToken
  else if c == '|' && !scan.inFlow then scan.blockScalar false
  else if c == '>' && !scan.inFlow then scan.blockScalar true
  else if c == '\'' then scan.quotedScalar false
  else if c == '"' then scan.quotedScalar true
  else if scan.startsPlain then scan.plain
  else malformed

/-- Passes over what stands between tokens, and closes the blocks that end there. -/
def approach (scan : Scan) : Reading Scan := do
  let (ended, rest) := skipGap false false scan.cells
  let scan := { scan with cells := rest }
  let scan := if ended && !scan.inFlow then scan.allowKey true else scan
  let scan ← scan.dropStale
  return scan.unwind scan.column

/-- The number of tokens in front of which no mark can be put any more. -/
def settled (scan : Scan) : Nat :=
  scan.candidates.foldl
    (fun least key => if scan.isStale key then least else min least key.position) scan.count

/--
The tokens of a document that cannot be read on from here.  The tokens behind a
candidate are not given out before it is known whether a mark goes in front of
it, so that the refusal takes their place.
-/
def refuse (scan : Scan) (why : Refusal) : List Token :=
  (Token.refused why :: scan.tokens.drop (scan.count - scan.settled)).reverse

/-- The tokens of the document from here on, the last one being the end or a refusal. -/
def run : Nat → Scan → List Token
  | 0, scan => scan.refuse .malformed
  | fuel + 1, scan =>
    match scan.approach with
    | .error why => scan.refuse why
    | .ok near =>
      if peek near.cells == endChar then
        match (near.unwind (-1)).dropCandidate with
        | .error why => scan.refuse why
        | .ok ended => (Token.streamEnd :: ended.tokens).reverse
      else
        match near.fetch with
        | .error why => scan.refuse why
        | .ok next => run fuel next

end Scan

/-- The tokens of a document. -/
def tokensOf (cs : List Char) : List Token :=
  let cells := cellsOf cs
  (Scan.start cells).run (cells.length + 1)

end PathExpr.Format.Yaml

import PathExpr.Fault
import PathExpr.Text.Blank
import PathExpr.Text.Split

/-!
# Separators

A colon stands between the tag of an expression and the rest, question marks
stand between alternatives.  Either may be typed in its full width.  Whichever
form occurs first in a text is the one that separates there.
-/

namespace PathExpr.Expr

open PathExpr.Text

/-- The two forms of a separator. -/
structure Separator where
  half : String
  full : String
  deriving Repr, DecidableEq

/-- What stands between a tag and the rest of its expression. -/
def colon : Separator := ⟨":", "："⟩

/-- What stands between alternatives. -/
def questionMark : Separator := ⟨"?", "？"⟩

/-- The form that occurs first; where both begin at one place, the smaller text. -/
def Separator.first? (separator : Separator) (s : String) : Option String :=
  match indexOf? separator.half s, indexOf? separator.full s with
  | none, none => none
  | some _, none => some separator.half
  | none, some _ => some separator.full
  | some i, some j =>
    if i < j then some separator.half
    else if j < i then some separator.full
    else some (if separator.full < separator.half then separator.full else separator.half)

/-- The colon that separates in a text. -/
def colonOf? (s : String) : Option String :=
  colon.first? s

/-- The question mark that separates in a text. -/
def questionMarkOf? (s : String) : Option String :=
  questionMark.first? s

/-- The trimmed texts before and after the first occurrence of a mark, or nothing. -/
def chunkAt (mark : Option String) (s : String) : List String :=
  match mark with
  | none => []
  | some "" => []
  | some mark =>
    match cut? mark s with
    | none => []
    | some (before, after) => [trim before, trim after]

/-- The trimmed tag and rest of an expression, or nothing. -/
def chunks (s : String) : List String :=
  chunkAt (colonOf? s) s

/-- The pieces that a separator ends; a text that is not empty needs a separator. -/
def terminated (separator s : String) : Except Fault (List String) :=
  if s = "" then .ok []
  else if separator = "" then .error .emptySeparator
  else .ok (splitTerminated separator s)

/-- The trimmed text after the last colon of either form. -/
def afterLastColon (segment : String) : String :=
  let isColon := fun c => c == ':' || c == '：'
  trim (String.ofList (segment.toList.reverse.takeWhile (fun c => !isColon c)).reverse)

end PathExpr.Expr

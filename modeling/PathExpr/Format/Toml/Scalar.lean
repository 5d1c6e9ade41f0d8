import PathExpr.Format.Reading
import PathExpr.Number.Reading
import PathExpr.Text.Split
import PathExpr.Value

/-!
# Scalars of TOML

Texts in four quotations, numbers, dates and times, each read from the start of
a list of characters together with what follows it.
-/

namespace PathExpr.Format.Toml

open PathExpr.Number PathExpr.Text

/-- Whether a name may hold the character without quotation. -/
def isBareChar (c : Char) : Bool :=
  ('a' ≤ c && c ≤ 'z') || ('A' ≤ c && c ≤ 'Z') || isDigit c || c == '-' || c == '_'

/-- Whether the character is a blank within a line. -/
def isGap (c : Char) : Bool :=
  c == ' ' || c == '\t'

/-- Whether the character is a blank or ends a line. -/
def isGapOrLine (c : Char) : Bool :=
  isGap c || c == '\n'

/-- What follows the blanks at the start. -/
def skipGap (cs : List Char) : List Char :=
  cs.dropWhile isGap

/-- Whether a text on one line must not hold the character. -/
def isControl (c : Char) : Bool :=
  (c.toNat < 32 && c != '\t') || c.toNat == 127

/-- Whether a text on several lines must not hold the character. -/
def isControlOrLine (c : Char) : Bool :=
  isControl c && c != '\n'

/-- What follows a comment, if one stands here. -/
def skipComment : List Char → Reading (List Char)
  | '#' :: rest =>
    if (rest.takeWhile (· != '\n')).any isControl then malformed
    else .ok (rest.dropWhile (· != '\n'))
  | cs => .ok cs

/-- The character with the number that some hexadecimal digits write. -/
def hexChar (width : Nat) (cs : List Char) : Reading (Char × List Char) :=
  let digits := cs.take width
  if digits.length = width && digits.all (isDigitIn 16) then
    let code := ofDigits 16 digits
    if code.isValidChar then .ok (Char.ofNat code, cs.drop width) else malformed
  else malformed

/-- The character that a letter behind a backslash stands for. -/
def escapeChar? : Char → Option Char
  | 'b' => some '\x08'
  | 't' => some '\t'
  | 'n' => some '\n'
  | 'f' => some '\x0c'
  | 'r' => some '\r'
  | '"' => some '"'
  | '\\' => some '\\'
  | _ => none

/-- What an escape behind its backslash stands for. -/
def escape (manyLines : Bool) : List Char → Reading (List Char × List Char)
  | [] => malformed
  | c :: rest =>
    if manyLines && c == '\n' then .ok ([], rest.dropWhile isGapOrLine)
    else if manyLines && isGap c then
      match skipGap rest with
      | [] => .ok ([], [])
      | '\n' :: rest => .ok ([], rest.dropWhile isGapOrLine)
      | _ => malformed
    else if c == 'u' then do
      let (decoded, rest) ← hexChar 4 rest
      return ([decoded], rest)
    else if c == 'U' then do
      let (decoded, rest) ← hexChar 8 rest
      return ([decoded], rest)
    else do
      let decoded ← require (escapeChar? c)
      return ([decoded], rest)

/-- A text with escapes up to its closing quotation. -/
def basicText (manyLines : Bool) : Nat → List Char → Reading (List Char × List Char)
  | 0, _ => malformed
  | fuel + 1, cs =>
    match cs with
    | [] => malformed
    | '"' :: rest =>
      if !manyLines then .ok ([], rest)
      else match rest with
        | '"' :: '"' :: rest => .ok ([], rest)
        | rest => do
          let (text, rest) ← basicText manyLines fuel rest
          return ('"' :: text, rest)
    | '\\' :: rest => do
      let (front, rest) ← escape manyLines rest
      let (text, rest) ← basicText manyLines fuel rest
      return (front ++ text, rest)
    | c :: rest =>
      if isControl c && !(manyLines && c == '\n') then malformed
      else do
        let (text, rest) ← basicText manyLines fuel rest
        return (c :: text, rest)

/-- A text without escapes up to its closing quotation. -/
def literalText (mark : List Char) (refuses : Char → Bool) (cs : List Char) :
    Reading (List Char × List Char) :=
  match cutChars? mark cs with
  | none => malformed
  | some (text, rest) => if text.any refuses then malformed else .ok (text, rest)

/-- A text on several lines with the one or two marks that may stand before its end. -/
def withExtraMarks (mark : Char) : List Char × List Char → List Char × List Char
  | (text, a :: b :: rest) =>
    if a = mark then
      if b = mark then (text ++ [mark, mark], rest) else (text ++ [mark], b :: rest)
    else (text, a :: b :: rest)
  | (text, [a]) => if a = mark then (text ++ [mark], []) else (text, [a])
  | (text, []) => (text, [])

/-- What follows a line end at the start. -/
def dropLine : List Char → List Char
  | '\n' :: rest => rest
  | cs => cs

/-- A text in any of the four quotations, if one begins here. -/
def quotedText? : List Char → Option (Reading (String × List Char))
  | '"' :: '"' :: '"' :: rest => some do
    let found ← basicText true (rest.length + 1) (dropLine rest)
    let (text, rest) := withExtraMarks '"' found
    return (String.ofList text, rest)
  | '"' :: rest => some do
    let (text, rest) ← basicText false (rest.length + 1) rest
    return (String.ofList text, rest)
  | '\'' :: '\'' :: '\'' :: rest => some do
    let found ← literalText ['\'', '\'', '\''] isControlOrLine (dropLine rest)
    let (text, rest) := withExtraMarks '\'' found
    return (String.ofList text, rest)
  | '\'' :: rest => some do
    let (text, rest) ← literalText ['\''] isControl rest
    return (String.ofList text, rest)
  | _ => none

/-- Digits of a base with single underscores between them, and what follows them. -/
def digitRun (base : Nat) : List Char → List Char × List Char
  | [] => ([], [])
  | '_' :: rest => ([], '_' :: rest)
  | c :: '_' :: d :: rest =>
    if isDigitIn base c then
      if isDigitIn base d then
        let (digits, rest) := digitRun base (d :: rest)
        (c :: digits, rest)
      else ([c], '_' :: d :: rest)
    else ([], c :: '_' :: d :: rest)
  | c :: rest =>
    if isDigitIn base c then
      let (digits, rest) := digitRun base rest
      (c :: digits, rest)
    else ([], c :: rest)

/-- A number in base sixteen, two or eight, if one stands here. -/
def basedNumber? : List Char → Option (Nat × List Char)
  | '0' :: mark :: rest => do
    let base ← match mark with
      | 'x' => some 16
      | 'b' => some 2
      | 'o' => some 8
      | _ => none
    let (digits, rest) := digitRun base rest
    if digits.isEmpty then none else some (ofDigits base digits, rest)
  | _ => none

/-- A decimal number, if one stands here: an integer unless it has a fraction or an exponent. -/
def decimal? (cs : List Char) : Option (Reading (Value × List Char)) :=
  let (negative, body) := takeSign cs
  let whole : Option (List Char × List Char) := match body with
    | '0' :: rest => some (['0'], rest)
    | c :: rest => if isDigit c then some (digitRun 10 (c :: rest)) else none
    | [] => none
  match whole with
  | none => none
  | some (whole, rest) =>
    let (fraction, rest) := match rest with
      | '.' :: after =>
        let (digits, after) := digitRun 10 after
        if digits.isEmpty then ([], rest) else (digits, after)
      | _ => ([], rest)
    let power : Option (Int × List Char) := match rest with
      | mark :: after =>
        if mark == 'e' || mark == 'E' then
          let (down, after) := takeSign after
          let (digits, after) := digitRun 10 after
          if digits.isEmpty then none else some (signed down (ofDigits 10 digits), after)
        else none
      | [] => none
    if fraction.isEmpty && power.isNone then
      if digitLimit < whole.length then
        some (failWith (.tooManyDigits (some whole.length)))
      else some (.ok (.int (signed negative (ofDigits 10 whole)), rest))
    else
      let (exponent, rest) := power.getD (0, rest)
      let x := nearestFloat (ofDigits 10 (whole ++ fraction)) (exponent - fraction.length)
      some (.ok (.float (if negative then -x else x), rest))

/-- A number given by a word, if one stands here. -/
def wordNumber? (cs : List Char) : Option (Value × List Char) :=
  let (negative, body) := takeSign cs
  match body with
  | 'i' :: 'n' :: 'f' :: rest =>
    some (.float (if negative then -1.0 / 0.0 else 1.0 / 0.0), rest)
  | 'n' :: 'a' :: 'n' :: rest => some (.float (0.0 / 0.0), rest)
  | _ => none

/-- Two digits that write a number within bounds, and what follows them. -/
def twoDigits? (low high : Nat) : List Char → Option (Nat × List Char)
  | a :: b :: rest =>
    if isDigit a && isDigit b then
      let n := ofDigits 10 [a, b]
      if low ≤ n && n ≤ high then some (n, rest) else none
    else none
  | _ => none

/-- What follows a character that satisfies the test. -/
def passMark? (test : Char → Bool) : List Char → Option (List Char)
  | c :: rest => if test c then some rest else none
  | [] => none

/-- A time of day, if one stands here: digits beyond the microseconds are dropped. -/
def time? (cs : List Char) : Option (TimeOfDay × List Char) := do
  let (hour, rest) ← twoDigits? 0 23 cs
  let (minute, rest) ← twoDigits? 0 59 (← passMark? (· == ':') rest)
  let (second, rest) ← twoDigits? 0 59 (← passMark? (· == ':') rest)
  match rest with
  | '.' :: after =>
    let digits := after.takeWhile isDigit
    if digits.isEmpty then some (⟨hour, minute, second, 0⟩, rest)
    else
      let six := digits.take 6
      some (⟨hour, minute, second, ofDigits 10 six * Nat.pow 10 (6 - six.length)⟩,
        after.dropWhile isDigit)
  | _ => some (⟨hour, minute, second, 0⟩, rest)

/-- An offset from universal time in seconds, if one stands here. -/
def offset? : List Char → Option (Int × List Char)
  | sign :: rest =>
    if sign == 'Z' || sign == 'z' then some (0, rest)
    else if sign == '+' || sign == '-' then do
      let (hours, rest) ← twoDigits? 0 23 rest
      let (minutes, rest) ← twoDigits? 0 59 (← passMark? (· == ':') rest)
      some (signed (sign == '-') (hours * 3600 + minutes * 60), rest)
    else none
  | [] => none

/-- The year, the month and the day of a date, if one stands here. -/
def dateNumbers? (cs : List Char) : Option ((Nat × Nat × Nat) × List Char) := do
  let year := cs.take 4
  if year.length = 4 && year.all isDigit then
    let (month, rest) ← twoDigits? 1 12 (← passMark? (· == '-') (cs.drop 4))
    let (day, rest) ← twoDigits? 1 31 (← passMark? (· == '-') rest)
    some ((ofDigits 10 year, month, day), rest)
  else none

/-- A date, with a time and an offset perhaps, if one stands here; it must exist. -/
def moment? (cs : List Char) : Option (Reading (Value × List Char)) := do
  let ((year, month, day), rest) ← dateNumbers? cs
  let date : Reading Date := match Date.make year month day with
    | .ok date => .ok date
    | .error _ => malformed
  let timed := (passMark? (fun c => c == 'T' || c == 't' || c == ' ') rest).bind time?
  match timed with
  | none => some do return (.date (← date), rest)
  | some (time, rest) =>
    match offset? rest with
    | some (offset, rest) => some do return (.moment ⟨← date, time, some offset⟩, rest)
    | none => some do return (.moment ⟨← date, time, none⟩, rest)

/-- A scalar other than a text. -/
def plainScalar (cs : List Char) : Reading (Value × List Char) :=
  match cs with
  | 't' :: 'r' :: 'u' :: 'e' :: rest => .ok (.bool true, rest)
  | 'f' :: 'a' :: 'l' :: 's' :: 'e' :: rest => .ok (.bool false, rest)
  | cs =>
    match moment? cs with
    | some part => part
    | none =>
      match time? cs with
      | some (time, rest) => .ok (.time time, rest)
      | none =>
        match basedNumber? cs with
        | some (n, rest) => .ok (.int n, rest)
        | none =>
          match decimal? cs with
          | some part => part
          | none => require (wordNumber? cs)

end PathExpr.Format.Toml

import PathExpr.Calendar
import PathExpr.Number.Reading
import PathExpr.Text.Split

/-!
# Tags of YAML

The type that a node is tagged with.  A plain scalar without a tag gets the one
that its text suggests: a truth value, a number, a date, nothing, or a text.
-/

namespace PathExpr.Format.Yaml

open PathExpr.Number

/-- The type of a node. -/
inductive Tag where
  | null
  | bool
  | int
  | float
  | binary
  | timestamp
  | omap
  | pairs
  | set
  | str
  | seq
  | map
  /-- The key under which mappings are merged into the one around it. -/
  | merge
  /-- The key under which a mapping holds its plain value. -/
  | value
  /-- Any other type, for which there are no values. -/
  | other
  deriving Repr, DecidableEq

/-- The beginning of the names of the standard types. -/
def standardLead : String := "tag:yaml.org,2002:"

/-- The type that a full name stands for. -/
def Tag.ofName (name : String) : Tag :=
  match Text.stripLead? standardLead name with
  | some "null" => .null
  | some "bool" => .bool
  | some "int" => .int
  | some "float" => .float
  | some "binary" => .binary
  | some "timestamp" => .timestamp
  | some "omap" => .omap
  | some "pairs" => .pairs
  | some "set" => .set
  | some "str" => .str
  | some "seq" => .seq
  | some "map" => .map
  | some "merge" => .merge
  | some "value" => .value
  | _ => .other

/-- The words for the two truth values. -/
def truthWords : List (String × Bool) := [
  ("yes", true), ("Yes", true), ("YES", true), ("no", false), ("No", false), ("NO", false),
  ("true", true), ("True", true), ("TRUE", true), ("false", false), ("False", false),
  ("FALSE", false), ("on", true), ("On", true), ("ON", true), ("off", false), ("Off", false),
  ("OFF", false)]

/-- Whether the character is a digit or an underscore. -/
def isLooseDigit (c : Char) : Bool :=
  isDigit c || c == '_'

/-- What follows an optional sign. -/
def dropSign : List Char → List Char
  | '-' :: rest => rest
  | '+' :: rest => rest
  | cs => cs

/-- Nothing, or an exponent mark, a sign and digits. -/
def isFloatTail : List Char → Bool
  | [] => true
  | mark :: sign :: digits =>
    (mark == 'e' || mark == 'E') && (sign == '-' || sign == '+') && !digits.isEmpty &&
      digits.all isDigit
  | _ => false

/-- Groups of one or two digits below sixty, each behind a colon, and what follows them. -/
def dropSixties : Nat → List Char → Nat × List Char
  | 0, cs => (0, cs)
  | fuel + 1, cs =>
    match cs with
    | ':' :: a :: b :: rest =>
      if '0' ≤ a && a ≤ '5' && isDigit b then
        let (n, rest) := dropSixties fuel rest
        (n + 1, rest)
      else if isDigit a then
        let (n, rest) := dropSixties fuel (b :: rest)
        (n + 1, rest)
      else (0, cs)
    | [':', a] => if isDigit a then (1, []) else (0, cs)
    | cs => (0, cs)

/-- Whether the text is a number with a point, an infinity or no number. -/
def isFloatText (cs : List Char) : Bool :=
  let body := dropSign cs
  let dotted := match body with
    | d :: rest =>
      if isDigit d then
        match rest.dropWhile isLooseDigit with
        | '.' :: rest => isFloatTail (rest.dropWhile isLooseDigit)
        | rest =>
          let (groups, rest) := dropSixties rest.length rest
          0 < groups && match rest with
            | '.' :: rest => rest.all isLooseDigit
            | _ => false
      else false
    | [] => false
  let pointFirst := match cs with
    | '.' :: d :: rest => isDigit d && isFloatTail (rest.dropWhile isLooseDigit)
    | _ => false
  dotted || pointFirst || [".inf", ".Inf", ".INF"].contains (String.ofList body) ||
    [".nan", ".NaN", ".NAN"].contains (String.ofList cs)

/-- Whether the text is an integer in one of the five notations. -/
def isIntText (cs : List Char) : Bool :=
  match dropSign cs with
  | ['0'] => true
  | '0' :: 'b' :: rest => !rest.isEmpty && rest.all fun c => c == '0' || c == '1' || c == '_'
  | '0' :: 'x' :: rest => !rest.isEmpty && rest.all fun c => isDigitIn 16 c || c == '_'
  | '0' :: rest => !rest.isEmpty && rest.all fun c => isDigitIn 8 c || c == '_'
  | d :: rest =>
    isDigit d &&
      match rest.dropWhile isLooseDigit with
      | [] => true
      | rest =>
        let (groups, rest) := dropSixties rest.length rest
        0 < groups && rest.isEmpty
  | [] => false

/-- Up to two digits, at least one, and what follows them. -/
def oneOrTwoDigits : List Char → Option (List Char × List Char)
  | a :: b :: rest =>
    if isDigit a then if isDigit b then some ([a, b], rest) else some ([a], b :: rest) else none
  | [a] => if isDigit a then some ([a], []) else none
  | [] => none

/-- Exactly two digits, and what follows them. -/
def twoDigits : List Char → Option (List Char × List Char)
  | a :: b :: rest => if isDigit a && isDigit b then some ([a, b], rest) else none
  | _ => none

/-- Exactly four digits, and what follows them. -/
def fourDigits (cs : List Char) : Option (List Char × List Char) := do
  let (front, rest) ← twoDigits cs
  let (back, rest) ← twoDigits rest
  some (front ++ back, rest)

/-- What follows a given character. -/
def dropMark (mark : Char) : List Char → Option (List Char)
  | c :: rest => if c = mark then some rest else none
  | [] => none

/-- The numbers in the text of a point in time. -/
structure Stamp where
  year : Nat
  month : Nat
  day : Nat
  /-- Hour, minute and second, where a time is given. -/
  time : Option (Nat × Nat × Nat)
  /-- The digits behind the seconds. -/
  fraction : List Char
  /-- The offset from universal time in seconds, where one is given. -/
  offset : Option Int
  deriving Repr, DecidableEq

/-- An offset: the letter for universal time, or a sign with hours and perhaps minutes. -/
def stampOffset (cs : List Char) : Option (Option Int) :=
  match cs.dropWhile fun c => c == ' ' || c == '\t' with
  | [] => if cs.isEmpty then some none else none
  | ['Z'] => some (some 0)
  | sign :: rest =>
    if sign == '-' || sign == '+' then do
      let (hours, rest) ← oneOrTwoDigits rest
      let minutes ← match rest with
        | [] => some []
        | ':' :: rest => do
          let (minutes, rest) ← twoDigits rest
          if rest.isEmpty then some minutes else none
        | _ => none
      let seconds := ofDigits 10 hours * 3600 + ofDigits 10 minutes * 60
      some (some (signed (sign == '-') seconds))
    else none

/-- The digits behind a point, if there is one, and what follows them. -/
def stampFraction : List Char → List Char × List Char
  | '.' :: rest => (rest.takeWhile isDigit, rest.dropWhile isDigit)
  | cs => ([], cs)

/-- What stands between a date and a time, passed over. -/
def dropStampGap : List Char → Option (List Char)
  | c :: rest =>
    if c == 'T' || c == 't' then some rest
    else if c == ' ' || c == '\t' then some (rest.dropWhile fun c => c == ' ' || c == '\t')
    else none
  | [] => none

/-- Reads the text of a point in time. -/
def Stamp.read? (cs : List Char) : Option Stamp := do
  let (year, rest) ← fourDigits cs
  let (month, rest) ← oneOrTwoDigits (← dropMark '-' rest)
  let (day, rest) ← oneOrTwoDigits (← dropMark '-' rest)
  let date : Stamp := ⟨ofDigits 10 year, ofDigits 10 month, ofDigits 10 day, none, [], none⟩
  if rest.isEmpty then some date
  else
    let (hour, rest) ← oneOrTwoDigits (← dropStampGap rest)
    let (minute, rest) ← twoDigits (← dropMark ':' rest)
    let (second, rest) ← twoDigits (← dropMark ':' rest)
    let (fraction, rest) := stampFraction rest
    let offset ← stampOffset rest
    some { date with
      time := some (ofDigits 10 hour, ofDigits 10 minute, ofDigits 10 second)
      fraction := fraction
      offset := offset }

/-- Whether an untagged text is a point in time: a lone date has two digits for each part. -/
def isStampText (cs : List Char) : Bool :=
  match Stamp.read? cs with
  | none => false
  | some stamp => stamp.time.isSome || cs.length == 10

/-- The text without a line feed at its end. -/
def dropFinalBreak (cs : List Char) : List Char :=
  if cs.getLast? = some '\n' then cs.dropLast else cs

/-- The type that the text of a plain scalar suggests, as long as no line feed ends it. -/
def Tag.suggested (cs : List Char) : Tag :=
  let s := String.ofList cs
  if (truthWords.lookup s).isSome then .bool
  else if isFloatText cs then .float
  else if isIntText cs then .int
  else if s = "<<" then .merge
  else if ["~", "null", "Null", "NULL", ""].contains s then .null
  else if isStampText cs then .timestamp
  else if s = "=" then .value
  else if s = "!" || s = "&" || s = "*" then .other
  else .str

/-- The type that the text of a plain scalar suggests; a line feed behind it is passed over. -/
def Tag.ofPlain (s : String) : Tag :=
  if s = "\n" then .str else suggested (dropFinalBreak s.toList)

end PathExpr.Format.Yaml

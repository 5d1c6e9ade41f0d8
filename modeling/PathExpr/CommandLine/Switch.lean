import PathExpr.Document
import PathExpr.Text.Digit

/-!
# Switches

The switches of the command line, their spellings, and how an argument is taken:
as a switch, as a plain word, or as the mark behind which all words are plain.  A
long spelling may be cut short as long as only one switch begins so.
-/

namespace PathExpr.CommandLine

open PathExpr.Text

/-- A switch. -/
inductive Switch where
  | help
  | config
  | format
  | check
  | verbose
  deriving Repr, DecidableEq

namespace Switch

/-- All switches. -/
def all : List Switch := [help, config, format, check, verbose]

/-- The spellings of a switch, a short one first. -/
def spellings : Switch → List String
  | help => ["-h", "--help"]
  | config => ["--config"]
  | format => ["--format"]
  | check => ["--check"]
  | verbose => ["-v", "--verbose"]

/-- Every spelling and its switch. -/
def table : List (String × Switch) :=
  all.flatMap fun switch => switch.spellings.map fun spelling => (spelling, switch)

/-- The switch with the given spelling. -/
def ofSpelling? (spelling : String) : Option Switch :=
  table.lookup spelling

/-- Whether a value belongs to the switch. -/
def takesValue : Switch → Bool
  | config => true
  | format => true
  | _ => false

/-- How messages call the switch. -/
def title (switch : Switch) : String :=
  join "/" switch.spellings

end Switch

/-- What is wrong with the arguments. -/
inductive UsageError where
  | valueMissing (switch : Switch)
  | valueRefused (switch : Switch) (value : String)
  | notChoice (switch : Switch) (value : String)
  | ambiguous (argument : String) (spellings : List String)
  | unrecognized (arguments : List String)
  deriving Repr, DecidableEq

/-- The message of an error about one switch. -/
def aboutSwitch (switch : Switch) (problem : String) : String :=
  "argument " ++ switch.title ++ ": " ++ problem

/-- What is wrong with the arguments, in words. -/
def UsageError.message : UsageError → String
  | valueMissing switch => aboutSwitch switch "expected one argument"
  | valueRefused switch value => aboutSwitch switch ("ignored explicit argument " ++ quoted value)
  | notChoice switch value =>
    aboutSwitch switch ("invalid choice: " ++ quoted value ++ " (choose from " ++
      join ", " (DocumentFormat.all.map fun format => quoted format.word) ++ ")")
  | ambiguous argument spellings =>
    "ambiguous option: " ++ argument ++ " could match " ++ join ", " spellings
  | unrecognized arguments => "unrecognized arguments: " ++ join " " arguments

/-- An argument as it is taken. -/
inductive Word where
  | plain (text : String)
  /-- The mark behind which all words are plain. -/
  | mark
  /-- A switch, whether it is spelled short, and the text attached to it. -/
  | option (switch : Switch) (isShort : Bool) (attached : Option String)
  /-- What looks like a switch and is none. -/
  | unknown (text : String)
  deriving Repr, DecidableEq

/-- The mark behind which all words are plain. -/
def endMark : String := "--"

/-- Whether digits stand here up to the end, where one line end may follow. -/
def isDigitTail (cs : List Char) : Bool :=
  let digits := if cs.getLast? = some '\n' then cs.dropLast else cs
  !digits.isEmpty && digits.all isAnyDigit

/-- Whether the argument is a negative number, whole or with a point. -/
def isNegativeNumber (cs : List Char) : Bool :=
  match cs with
  | '-' :: rest =>
    isDigitTail rest ||
      match rest.dropWhile isAnyDigit with
      | '.' :: fraction => isDigitTail fraction
      | _ => false
  | _ => false

/-- Whether the argument begins with two dashes. -/
def isLong (cs : List Char) : Bool :=
  cs.take 2 == ['-', '-']

/-- An argument divided at its first equals sign. -/
def atEquals (argument : String) : String × Option String :=
  match cut? "=" argument with
  | some (spelling, value) => (spelling, some value)
  | none => (argument, none)

/-- The switches that an argument may mean: their spellings and the text attached to them. -/
def candidates (argument : String) : List (String × Switch × Option String) :=
  let cs := argument.toList
  if isLong cs then
    let (lead, attached) := atEquals argument
    Switch.table.filterMap fun (spelling, switch) =>
      if startsWith lead spelling then some (spelling, switch, attached) else none
  else
    Switch.table.filterMap fun (spelling, switch) =>
      if spelling.toList == cs.take 2 then
        some (spelling, switch, some (String.ofList (cs.drop 2)))
      else if startsWith argument spelling then some (spelling, switch, none)
      else none

/-- A word for a switch of the given spelling. -/
def Word.ofSwitch (switch : Switch) (spelling : String) (attached : Option String) : Word :=
  .option switch (!isLong spelling.toList) attached

/-- How an argument in front of the mark is taken. -/
def Word.ofArgument (argument : String) : Except UsageError Word :=
  let cs := argument.toList
  if cs.head? != some '-' || cs == ['-'] then .ok (.plain argument)
  else match Switch.ofSpelling? argument with
  | some switch => .ok (.ofSwitch switch argument none)
  | none =>
    let (spelling, attached) := atEquals argument
    match Switch.ofSpelling? spelling with
    | some switch => .ok (.ofSwitch switch spelling attached)
    | none =>
      match candidates argument with
      | [(spelling, switch, attached)] => .ok (.ofSwitch switch spelling attached)
      | [] =>
        if isNegativeNumber cs || cs.contains ' ' then .ok (.plain argument)
        else .ok (.unknown argument)
      | several => .error (.ambiguous argument (several.map (·.1)))

/-- How the arguments are taken, one by one. -/
def wordsOf : List String → Except UsageError (List Word)
  | [] => .ok []
  | argument :: rest =>
    if argument = endMark then .ok (.mark :: rest.map .plain)
    else do
      let word ← Word.ofArgument argument
      let others ← wordsOf rest
      return word :: others

end PathExpr.CommandLine

import PathExpr.CommandLine.Switch

/-!
# Settings of the command line

The arguments are gone through in order.  The first run of plain words is the raw
sequence; plain words behind a later switch are not recognized.
-/

namespace PathExpr.CommandLine

/-- What the arguments ask for. -/
structure Settings where
  raw : List String := []
  config : Option String := none
  format : Option DocumentFormat := none
  check : Bool := false
  verbose : Bool := false
  deriving Repr, DecidableEq

/-- Why nothing is done with the arguments. -/
inductive Stop where
  | help
  | usage (problem : UsageError)
  deriving Repr, DecidableEq

/-- Whether the raw sequence is still to come, being gone through, or complete. -/
inductive RawState where
  | waiting
  | running
  | complete
  deriving Repr, DecidableEq

/-- What has been gathered from the arguments so far. -/
structure Gathered where
  settings : Settings := {}
  rawState : RawState := .waiting
  unrecognized : List String := []
  deriving Repr, DecidableEq

namespace Gathered

/-- Takes a plain word. -/
def plain (gathered : Gathered) (text : String) : Gathered :=
  let { settings, rawState, unrecognized } := gathered
  match rawState with
  | .complete => ⟨settings, .complete, unrecognized ++ [text]⟩
  | _ => ⟨{ settings with raw := settings.raw ++ [text] }, .running, unrecognized⟩

/-- Takes the mark behind which all words are plain. -/
def mark (gathered : Gathered) : Gathered :=
  match gathered.rawState with
  | .complete => { gathered with unrecognized := gathered.unrecognized ++ [endMark] }
  | _ => { gathered with rawState := .running }

/-- A switch ends the run of plain words. -/
def endRun (gathered : Gathered) : Gathered :=
  match gathered.rawState with
  | .running => { gathered with rawState := .complete }
  | _ => gathered

/-- Takes what looks like a switch and is none. -/
def unknown (gathered : Gathered) (text : String) : Gathered :=
  { gathered with unrecognized := gathered.unrecognized ++ [text] }

/-- Takes a switch without a value. -/
def flag (gathered : Gathered) : Switch → Except Stop Gathered
  | .check => .ok { gathered with settings := { gathered.settings with check := true } }
  | .verbose => .ok { gathered with settings := { gathered.settings with verbose := true } }
  | _ => .error .help

/-- Takes switches without values. -/
def flags : Gathered → List Switch → Except Stop Gathered
  | gathered, [] => .ok gathered
  | gathered, switch :: rest => do flags (← gathered.flag switch) rest

/-- Takes a switch with its value; an attached mark for plain words is no value. -/
def value (gathered : Gathered) (switch : Switch) (text : String) : Except Stop Gathered :=
  let settings := gathered.settings
  match switch with
  | .format =>
    if text = endMark then .ok { gathered with settings := { settings with format := none } }
    else match DocumentFormat.ofWord? text with
    | some format => .ok { gathered with settings := { settings with format := some format } }
    | none => .error (.usage (.notChoice switch text))
  | _ =>
    let path := if text = endMark || text.isEmpty then none else some text
    .ok { gathered with settings := { settings with config := path } }

end Gathered

/--
The switches in a short switch and the letters attached to it, each of which has
to be a short switch of its own.
-/
def attachedFlags (switch : Switch) (isShort : Bool) : List Char → Except Stop (List Switch)
  | [] => .error (.usage (.valueRefused switch ""))
  | c :: rest =>
    let refusal := Stop.usage (.valueRefused switch (String.ofList (c :: rest)))
    if !isShort then .error refusal
    else match Switch.ofSpelling? (String.ofList ['-', c]) with
    | none => .error refusal
    | some next =>
      if rest.isEmpty then .ok [switch, next]
      else (attachedFlags next true rest).map (switch :: ·)

/-- Goes through the words that are left. -/
def gather : Gathered → List Word → Except Stop Gathered
  | gathered, [] => .ok gathered
  | gathered, .plain text :: rest => gather (gathered.plain text) rest
  | gathered, .mark :: rest => gather gathered.mark rest
  | gathered, .unknown text :: rest => gather (gathered.endRun.unknown text) rest
  | gathered, .option switch isShort (some attached) :: rest =>
    if switch.takesValue then do
      gather (← gathered.endRun.value switch attached) rest
    else do
      let switches ← attachedFlags switch isShort attached.toList
      gather (← gathered.endRun.flags switches) rest
  | gathered, .option switch _ none :: rest =>
    if switch.takesValue then
      match rest with
      | .plain text :: rest => do gather (← gathered.endRun.value switch text) rest
      | _ => .error (.usage (.valueMissing switch))
    else do
      gather (← gathered.endRun.flag switch) rest

/-- What the arguments ask for. -/
def Settings.ofArguments (arguments : List String) : Except Stop Settings :=
  match wordsOf arguments with
  | .error problem => .error (.usage problem)
  | .ok words => do
    let gathered ← gather {} words
    if gathered.unrecognized.isEmpty then return gathered.settings
    else throw (.usage (.unrecognized gathered.unrecognized))

end PathExpr.CommandLine

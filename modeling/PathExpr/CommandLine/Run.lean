import PathExpr.CommandLine.Settings
import PathExpr.Config.File
import PathExpr.Logger
import PathExpr.PathSpec

/-!
# The command

Resolves a raw sequence and prints its path, or prints the raw sequence itself
as a document.  What is printed, and with what status the command ends, is a
value; a fault that the command has no words for ends it without one.
-/

namespace PathExpr.CommandLine

open PathExpr.Text

/-- What the command prints, and the status it ends with. -/
structure Report where
  status : Nat
  output : String
  errors : String
  /-- The level of the logger in the end. -/
  level : Int
  deriving Repr, DecidableEq

/-- The forms of the command. -/
def usage : String :=
  "usage: envpath [-h] [--config CONFIG] [--format \x7bjson,yaml,toml,xml\x7d]\n" ++
  "               [--check] [-v]\n" ++
  "               [raw ...]\n"

/-- The forms of the command and what the arguments mean. -/
def helpText : String :=
  usage ++ "\n" ++
  "Resolve path expressions such as '$env: xdg_data_home ? home' into a path.\n\n" ++
  "positional arguments:\n" ++
  "  raw                   Path components or $env/$const/$dir/$proj/$val\n" ++
  "                        expressions\n\n" ++
  "options:\n" ++
  "  -h, --help            show this help message and exit\n" ++
  "  --config CONFIG       Resolver config file (.json, .yaml, .yml or .toml)\n" ++
  "  --format \x7bjson,yaml,toml,xml\x7d\n" ++
  "                        Print the serialized raw sequence instead of resolving\n" ++
  "                        it\n" ++
  "  --check               Exit with status 1 when the path does not exist\n" ++
  "  -v, --verbose         Log resolution steps to stderr\n"

/-- The report on arguments that nothing is done with. -/
def Stop.report : Stop → Report
  | help => ⟨0, helpText, "", Logger.warningLevel⟩
  | usage problem =>
    ⟨2, "", CommandLine.usage ++ "envpath: error: " ++ problem.message ++ "\n",
      Logger.warningLevel⟩

/-- Whether the command reports a fault of the configuration file itself. -/
def isReported (fault : Fault) : Bool :=
  match fault.kind with
  | .option => true
  | .sequence => true
  | .file => true
  | _ => false

/-- A line about something that went wrong. -/
def errorLine (message : String) : String :=
  "Error: " ++ message ++ "\n"

/-- The lines of remarks. -/
def remarkLines (notes : List Note) : String :=
  String.join (notes.map fun note => "[DEBUG] " ++ note.message ++ "\n")

/-- Prints the raw sequence as a document, without line ends after its last line. -/
def printDocument (level : Int) (raw : List String) (format : DocumentFormat) :
    Except Fault Report := do
  let text ← RawSequence.write raw (some format.word) true
  let body := String.ofList (dropEndWhile (· == '\n') text.toList)
  return ⟨0, body ++ "\n", "", level⟩

/-- Whether the path exists, where that is asked for. -/
def passesCheck (world : World) (check : Bool) (path : Path) : Traced Bool := do
  if !check then return true
  else
    Traced.emit (.probe path.text)
    return world.pathExists path.text

/-- Resolves the raw sequence and prints its path. -/
def printPath (world : World) (logger : Logger) (settings : Settings) (config : Config) :
    Traced Report := do
  let resolution := (PathSpec.builtIn settings.raw config).resolve world
  let remarks := if logger.writesRemarks then remarkLines resolution.notes else ""
  let spec ← resolution
  match spec.path with
  | none =>
    let problem := "could not resolve " ++ Fault.displayTexts settings.raw
    return ⟨1, "", remarks ++ errorLine problem, logger.level⟩
  | some path =>
    let passed ← passesCheck world settings.check path
    return ⟨if passed then 0 else 1, path.text ++ "\n", remarks, logger.level⟩

/-- The settings of the resolver: those of the named file, or the default ones. -/
def configOf (world : World) (settings : Settings) : Except Fault Config :=
  match settings.config with
  | some path => Config.load world path
  | none => .ok Config.default

/-- What the command does with its settings. -/
def act (world : World) (settings : Settings) : Traced Report :=
  let level := if settings.verbose then some Logger.debugLevel else none
  let logger := Logger.detached.setup world level
  match configOf world settings with
  | .error fault =>
    if isReported fault then return ⟨2, "", errorLine fault.message, logger.level⟩
    else Traced.ofExcept (.error fault)
  | .ok config =>
    match settings.format with
    | some format => Traced.ofExcept (printDocument logger.level settings.raw format)
    | none => printPath world logger settings config

/-- What the command does with its arguments. -/
def run (world : World) (arguments : List String) : Traced Report :=
  match Settings.ofArguments arguments with
  | .error stop => return stop.report
  | .ok settings => act world settings

end PathExpr.CommandLine

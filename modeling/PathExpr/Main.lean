import PathExpr.CommandLine.Run

/-!
# The program

Reads the machine, hands it to the command, and prints what the command reports.
Which paths exist is not known beforehand: the command is run again with each
path that it has asked about and that exists, until no such path is new.
-/

namespace PathExpr.Main

open PathExpr.Text

/-- The contents of a file; none when it cannot be read. -/
def contents? (path : String) : IO (Option (List UInt8)) := do
  try
    let data ← IO.FS.readBinFile path
    return some data.toList
  catch _ => return none

/-- The text of a file, which is empty when it cannot be read. -/
def textOf (path : String) : IO String := do
  return decodeLenient ((← contents? path).getD [])

/-- Whether something has the path. -/
def isThere (path : String) : IO Bool := do
  try
    discard (IO.FS.realPath path)
    return true
  catch _ => return false

/-- The environment of this program. -/
def environment : IO (List (String × String)) := do
  let entries := split "\x00" (← textOf "/proc/self/environ")
  return entries.filterMap (cut? "=")

/-- The number of the current user. -/
def userNumber : IO String := do
  let fields := (lines (← textOf "/proc/self/status")).filterMap (stripLead? "Uid:\t")
  match fields with
  | field :: _ => return (split "\t" field).headD ""
  | [] => return ""

/-- The users of this machine: names, numbers and homes. -/
def userTable : IO (List (String × String × String)) := do
  return (lines (← textOf "/etc/passwd")).filterMap fun line =>
    match split ":" line with
    | [name, _, number, _, _, home, _] => some (name, number, home)
    | _ => none

/-- The name of the platform. -/
def platformName (env : List (String × String)) : IO String := do
  if env.lookup "OS" == some "Windows_NT" then return "win32"
  else if ← isThere "/System/Library" then return "darwin"
  else return "linux"

/-- Random draws. -/
def drawing : IO (Nat → Fin 62) := do
  let mut draws : Array (Fin 62) := #[]
  for _ in [0:Config.maxRandLength] do
    draws := draws.push (Fin.ofNat 62 (← IO.rand 0 61))
  return fun position => draws.getD position 0

/-- The machine, without its files. -/
def machine : IO World := do
  let env ← environment
  let users ← userTable
  let number ← userNumber
  let platform ← platformName env
  let processor := trim (← textOf "/proc/sys/kernel/arch")
  let tempDir := (["TMPDIR", "TEMP", "TMP"].findSome? fun name => env.lookup name).getD "/tmp"
  return {
    env := env
    existing := []
    files := []
    ownHome := (users.find? fun user => user.2.1 == number).map fun user => user.2.2
    users := users.map fun user => (user.1, user.2.2)
    platform := platform
    family := if platform == "win32" then "nt" else "posix"
    android := env.any fun entry => entry.1 == "ANDROID_ROOT"
    machine := if processor.isEmpty then "x86_64" else processor
    tempDir := tempDir
    tempWritable := ← isThere tempDir
    draw := ← drawing
    -- The stack of the program grows as far as the reading of a document needs it.
    outgrows := fun _ _ => false }

/-- The files that the command may read. -/
def readableFiles (world : World) (arguments : List String) : List String :=
  let config := match CommandLine.Settings.ofArguments arguments with
    | .ok settings => settings.config.toList
    | .error _ => []
  let userDirs := match Table.UserDir.file world with
    | .ok (some path) => [path.text]
    | _ => []
  config ++ userDirs

/-- The machine with the files that the command may read. -/
def withFiles (world : World) (arguments : List String) : IO World := do
  let mut files := world.files
  for path in readableFiles world arguments do
    if let some data ← contents? path then
      files := files ++ [(path, data)]
  return { world with files }

/-- The paths that the command has asked about. -/
def probed (computation : Traced CommandLine.Report) : List String :=
  computation.calls.filterMap fun
    | .probe path => some path
    | _ => none

/-- The outcome of the command once all existing paths that it asks about are known. -/
partial def settle (world : World) (arguments : List String) :
    IO (Except Fault CommandLine.Report) := do
  let computation := CommandLine.run world arguments
  let unknown := (probed computation).filter fun path => !world.pathExists path
  let found ← unknown.filterM isThere
  if found.isEmpty then return computation.outcome
  else settle { world with existing := found ++ world.existing } arguments

end PathExpr.Main

/-- The command `envpath`. -/
def main (arguments : List String) : IO UInt32 := do
  let world ← PathExpr.Main.withFiles (← PathExpr.Main.machine) arguments
  match ← PathExpr.Main.settle world arguments with
  | .ok report =>
    IO.print report.output
    IO.eprint report.errors
    return report.status.toUInt32
  | .error fault =>
    IO.eprintln fault.message
    return 1

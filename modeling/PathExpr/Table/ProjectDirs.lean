import PathExpr.Project.Group
import PathExpr.Table.BaseDir
import PathExpr.Text.Case

/-!
# Project directories

The directories of one project.  Each is a base directory with the project's own
path below it; how that path is made from the project's names depends on the
platform.
-/

namespace PathExpr.Table

open PathExpr.Text

/-- A list with each run of blanks replaced by a text. -/
def replaceBlanks (filler : List Char) : List Char → List Char
  | [] => []
  | [c] => if isBlank c then filler else [c]
  | c :: d :: rest =>
    if isBlank c then
      if isBlank d then replaceBlanks filler (d :: rest)
      else filler ++ replaceBlanks filler (d :: rest)
    else c :: replaceBlanks filler (d :: rest)

/-- The text with each run of blanks written as another text. -/
def withoutBlanks (filler s : String) : String :=
  String.ofList (replaceBlanks filler.toList s.toList)

/--
The path of a project below a base directory: its organization and application
on Windows, all its names with dots between them on macOS, and its application
in lower case without blanks elsewhere.
-/
def projectFolder (world : World) (group : ProjectGroup) : Path :=
  if world.isWindows then
    if group.organization = "" then Path.ofText group.application
    else (Path.ofText group.organization).child group.application
  else if world.isMac then
    let names := group.fields.filter (· != "")
    Path.ofText (join "." (names.map fun name => withoutBlanks "-" (trim name)))
  else Path.ofText (withoutBlanks "" (lower (trim group.application)))

/-- The path of a project, when there is a home directory and the path is not empty. -/
def projectFolder? (world : World) (group : ProjectGroup) : Option Path :=
  if (BaseDir.home world).isNone then none
  else
    let path := projectFolder world group
    if path.text = "." then none else some path

/-- The directories that every project has. -/
inductive ProjectDir where
  | cache
  | config
  | localConfig
  | data
  | localData
  | preferences
  | runtime
  | state
  deriving Repr, DecidableEq

namespace ProjectDir

/-- All directories of a project. -/
def all : List ProjectDir :=
  [cache, config, localConfig, data, localData, preferences, runtime, state]

/-- The directory that an identifier names. -/
def ofIdent? : String → Option ProjectDir
  | "cache" => some cache
  | "cfg" | "config" => some config
  | "data" => some data
  | "local-data" | "local_data" => some localData
  | "local-cfg" | "local_cfg" | "local_config" => some localConfig
  | "pref" | "preference" => some preferences
  | "runtime" => some runtime
  | "state" => some state
  | _ => none

/-- The base directory, and the folder that Windows puts below the project's own path. -/
def base (world : World) : ProjectDir → DirResult × List String
  | cache =>
    if world.isWindows then (BaseDir.localData world, ["cache"]) else (BaseDir.cache world, [])
  | config => (BaseDir.config world, if world.isWindows then ["config"] else [])
  | localConfig => (BaseDir.localConfig world, if world.isWindows then ["config"] else [])
  | data => (BaseDir.data world, if world.isWindows then ["data"] else [])
  | localData => (BaseDir.localData world, if world.isWindows then ["data"] else [])
  | preferences =>
    if world.isWindows then (BaseDir.config world, ["config"]) else (BaseDir.preferences world, [])
  | runtime => (BaseDir.runtime world, [])
  | state => (BaseDir.state world, [])

/-- The directory of a project with the given path. -/
def locate (world : World) (path : Path) (dir : ProjectDir) : DirResult := do
  let (base, below) := dir.base world
  return (← base).map fun base => (base ++ path).children below

end ProjectDir

/--
The text that an identifier names within a project.  The path itself is also
known, as the project's name, where no directory is.
-/
def projectEntry? (world : World) (ident : String) (group : ProjectGroup) :
    Except Fault (Option String) :=
  match projectFolder? world group with
  | none => .ok (if ident = "path" then some group.name else none)
  | some path =>
    if ident = "path" then .ok (some path.text)
    else match ProjectDir.ofIdent? ident with
    | none => .ok none
    | some dir => return (← dir.locate world path).map Path.text

end PathExpr.Table

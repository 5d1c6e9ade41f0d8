import PathExpr.Table.Values
import PathExpr.Traced
import PathExpr.World

/-!
# Base directories

The directories that a system sets aside for caches, settings, data, programs and
the like.  On Linux they follow the variables for base directories, on macOS they
are in the library folder, and on Windows they follow the variables for known
folders.
-/

namespace PathExpr.Table

open PathExpr.Text

/-- A directory, none, or the fault met in looking for it. -/
abbrev DirResult := Except Fault (Option Path)

namespace BaseDir

/-- The home directory; none when it is unknown. -/
def home (world : World) : Option Path :=
  world.home.toOption

/-- A path below the home directory. -/
def belowHome (world : World) (names : List String) : Option Path :=
  (home world).map fun home => home.children names

/-- The path in a variable that is set and not empty. -/
def pathIn (world : World) (name : String) : DirResult :=
  match world.nonEmpty? name with
  | none => .ok none
  | some text => (world.expandHome (Path.ofText text)).map some

/-- The absolute path in a variable. -/
def absoluteIn (world : World) (name : String) : DirResult := do
  return (← pathIn world name).filter Path.isAbsolute

/-- The absolute path in a variable, or else a path below the home directory. -/
def variableOr (world : World) (name : String) (names : List String) : DirResult := do
  match ← absoluteIn world name with
  | some path => return some path
  | none => return belowHome world names

/-- Where caches are kept. -/
def cache (world : World) : DirResult :=
  if world.isWindows then pathIn world "LOCALAPPDATA"
  else if world.isMac then .ok (belowHome world ["Library", "Caches"])
  else variableOr world "XDG_CACHE_HOME" [".cache"]

/-- Where settings are kept. -/
def config (world : World) : DirResult :=
  if world.isWindows then pathIn world "APPDATA"
  else if world.isMac then .ok (belowHome world ["Library", "Application Support"])
  else variableOr world "XDG_CONFIG_HOME" [".config"]

/-- Where settings for this machine alone are kept. -/
def localConfig (world : World) : DirResult :=
  if world.isWindows then pathIn world "LOCALAPPDATA" else config world

/-- Where data are kept. -/
def data (world : World) : DirResult :=
  if world.isWindows then pathIn world "APPDATA"
  else if world.isMac then .ok (belowHome world ["Library", "Application Support"])
  else variableOr world "XDG_DATA_HOME" [".local", "share"]

/-- Where data for this machine alone are kept. -/
def localData (world : World) : DirResult :=
  if world.isWindows then pathIn world "LOCALAPPDATA" else data world

/-- Where a user's programs are, outside Windows and macOS. -/
def userPrograms (world : World) : DirResult :=
  if world.isWindows || world.isMac then .ok none
  else do
    match ← absoluteIn world "XDG_BIN_HOME" with
    | some path => return some path
    | none => return (← data world).map fun data => data.parent.child "bin"

/-- Where preferences are kept. -/
def preferences (world : World) : DirResult :=
  if world.isMac then .ok (belowHome world ["Library", "Preferences"]) else config world

/-- Where sockets and the like are kept while a user is logged in. -/
def runtime (world : World) : DirResult :=
  if world.isWindows || world.isMac then .ok none else absoluteIn world "XDG_RUNTIME_DIR"

/-- Where state that outlives a program is kept. -/
def state (world : World) : DirResult :=
  if world.isWindows || world.isMac then .ok none
  else variableOr world "XDG_STATE_HOME" [".local", "state"]

/-- Where a user's fonts are, outside Windows. -/
def userFonts (world : World) : DirResult :=
  if world.isWindows then .ok none
  else if world.isMac then .ok (belowHome world ["Library", "Fonts"])
  else do return (← data world).map fun data => data.child "fonts"

/-- Where a user's programs are, on every platform. -/
def programs (world : World) : DirResult := do
  match ← userPrograms world with
  | some path => return some path
  | none =>
    if world.isWindows then
      return (← localData world).map fun data => data.children ["Microsoft", "WindowsApps"]
    else if world.isUnix then return belowHome world [".local", "bin"]
    else return (← localData world).map fun data => data.child "bin"

/-- Where fonts are, on every platform. -/
def fonts (world : World) : DirResult := do
  match ← userFonts world with
  | some path => return some path
  | none =>
    if world.isWindows then
      let system := (world.envVar? "SYSTEMROOT").getD "C:\\Windows"
      return some ((Path.ofText system).child "Fonts")
    else return none

/-- Where temporary files go: a variable, the system's directory, or the cache. -/
def scratch (world : World) : Traced Path :=
  match world.nonEmpty? "TMPDIR" with
  | some path => return Path.ofText path
  | none => do
    let system := Path.ofText world.tempDir
    if world.tempWritable then return system
    else
      Traced.remark (.notWritable system.text)
      match ← Traced.ofExcept (cache world) with
      | some cache => return cache.child "tmp"
      | none => return Path.ofText ".tmp"

/-- The name of a random directory: a blank name in front of the random text is left out. -/
def randomName (before : Option String) (pkgName random : String) : String :=
  match before with
  | none => pkgName ++ "_" ++ random
  | some lead => if trim lead = "" then random else lead ++ random

/-- A directory with a random name among the temporary files. -/
def randomScratch (world : World) (before : Option String) (randLength : Option Int)
    (pkgName : String) : Traced Path := do
  let tmp ← scratch world
  return tmp.child (randomName before pkgName (randomValue world randLength))

end BaseDir

end PathExpr.Table

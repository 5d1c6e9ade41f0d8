import PathExpr.Table.BaseDir
import PathExpr.Table.UserDir

/-!
# Directories

The identifiers of the directory namespace, each with the directory that it names.
-/

namespace PathExpr.Table

open PathExpr.Text

/-- An end of the search path. -/
inductive PathEnd where
  | first
  | last
  deriving Repr, DecidableEq

/-- The word for an end of the search path. -/
def PathEnd.ofWord? : String → Option PathEnd
  | "first" => some .first
  | "last" => some .last
  | _ => none

/-- The entry at one end of the search path; empty entries do not count. -/
def searchPathEntry? (world : World) (which : PathEnd) : Option String :=
  match world.nonEmpty? "PATH" with
  | none => none
  | some path =>
    let entries := (split ":" path).filter (· != "")
    match which with
    | .first => entries.head?
    | .last => entries.getLast?

/-- A folder of Windows that a variable names. -/
def windowsFolder (world : World) (name fallback : String) : Option String :=
  if world.isWindows then some ((world.nonEmpty? name).getD fallback) else none

/-- The text of a directory, without any event. -/
def dirText (dir : DirResult) : Traced (Option String) := do
  return (← Traced.ofExcept dir).map Path.text

/-- The directory that an identifier names. -/
def directory? (world : World) (pkgName : String) (randLength : Option Int) (ident : String) :
    Traced (Option String) :=
  match ident with
  | "home" => return (BaseDir.home world).map Path.text
  | "cache" | "cli-cache" | "cli_cache" => dirText (BaseDir.cache world)
  | "cfg" | "config" => dirText (BaseDir.config world)
  | "data" => dirText (BaseDir.data world)
  | "local-data" | "local_data" | "cli-data" | "cli_data" => dirText (BaseDir.localData world)
  | "local-cfg" | "local_cfg" | "local_config" | "cli-cfg" | "cli_cfg" | "cli_config" =>
    dirText (BaseDir.localConfig world)
  | "desktop" => dirText (UserDir.desktop world)
  | "doc" | "document" | "documentation" => dirText (UserDir.documents world)
  | "dl" | "download" => dirText (UserDir.downloads world)
  | "bin" | "exe" | "executable" => dirText (BaseDir.programs world)
  | "path" | "first-path" | "first_path" => return searchPathEntry? world .first
  | "last-path" | "last_path" => return searchPathEntry? world .last
  | "font" | "typeface" => dirText (BaseDir.fonts world)
  | "music" | "audio" => dirText (UserDir.music world)
  | "pic" | "picture" => dirText (UserDir.pictures world)
  | "pref" | "preference" => dirText (BaseDir.preferences world)
  | "pub" | "public" => dirText (UserDir.shared world)
  | "runtime" => dirText (BaseDir.runtime world)
  | "state" => dirText (BaseDir.state world)
  | "template" => dirText (UserDir.templates world)
  | "video" | "movie" => dirText (UserDir.videos world)
  | "tmp" => return some (← BaseDir.scratch world).text
  | "tmp-rand" | "tmp_random" =>
    return some (← BaseDir.randomScratch world none randLength pkgName).text
  | "var-tmp" | "var_tmp" =>
    return if world.isUnix then some ((Path.ofText "/var/tmp").child pkgName).text else none
  | "temp" | "temporary" => return some world.tempDir
  | "empty" => return some ""
  | "program-files" | "program_files" =>
    return windowsFolder world "ProgramFiles" "C:\\Program Files"
  | "program-files-x86" | "program_files_x86" =>
    return windowsFolder world "ProgramFiles(x86)" "C:\\Program Files (x86)"
  | "common-program-files" | "common_program_files" =>
    return windowsFolder world "CommonProgramFiles" "C:\\Program Files\\Common Files"
  | "common-program-files-x86" | "common_program_files_x86" =>
    return windowsFolder world "CommonProgramFiles(x86)" "C:\\Program Files (x86)\\Common Files"
  | "program-data" | "program_data" =>
    return windowsFolder world "ProgramData" "C:\\ProgramData"
  | "microsoft" =>
    if world.isWindows then
      dirText do return (← BaseDir.data world).map fun data => data.child "Microsoft"
    else return none
  | "local-low" | "local_low" =>
    if world.isWindows then
      dirText do return (← BaseDir.localData world).map fun data => data.parent.child "LocalLow"
    else return none
  | _ => return none

end PathExpr.Table

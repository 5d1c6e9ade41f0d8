import PathExpr.Table.BaseDir
import PathExpr.Text.Blank
import PathExpr.Text.Lines
import PathExpr.Text.Split
import PathExpr.Text.Utf8

/-!
# User directories

The folders that a user knows by name: the desktop, documents, music and so on.
Outside Windows and macOS a variable or a file may move them.  Each line of that
file may assign a quoted value to a key.  Lines of any other form are passed over,
and the last assignment to a key counts.
-/

namespace PathExpr.Table.UserDir

open PathExpr.Text

/-- Whether the character is a capital letter of ASCII. -/
def isCapital (c : Char) : Bool :=
  'A' ≤ c && c ≤ 'Z'

/-- The key at the start of a line, and what follows it. -/
def takeKey? (line : List Char) : Option (List Char × List Char) := do
  let body ← afterLead? "XDG_".toList line
  let capitals := body.takeWhile isCapital
  let rest ← afterLead? "_DIR".toList (body.dropWhile isCapital)
  if capitals.isEmpty then none
  else some ("XDG_".toList ++ capitals ++ "_DIR".toList, rest)

/-- What stands between a leading quote and the last quote, when only blanks follow that. -/
def quotedValue? : List Char → Option (List Char)
  | '"' :: rest =>
    match rest.reverse.dropWhile isBlank with
    | '"' :: body => some body.reverse
    | _ => none
  | _ => none

/-- The key and the value that a line assigns. -/
def assignment? (line : String) : Option (String × String) := do
  let (key, rest) ← takeKey? (line.toList.dropWhile isBlank)
  match rest.dropWhile isBlank with
  | '=' :: rest =>
    let value ← quotedValue? (rest.dropWhile isBlank)
    some (String.ofList key, String.ofList value)
  | _ => none

/-- Binds a key: its old place is kept and a new key comes last. -/
def assign (key value : String) : List (String × String) → List (String × String)
  | [] => [(key, value)]
  | (k, v) :: rest => if k = key then (k, value) :: rest else (k, v) :: assign key value rest

/-- The assignments of a file, one for each key. -/
def assignments (contents : String) : List (String × String) :=
  ((lines contents).filterMap assignment?).foldl
    (fun bound entry => assign entry.1 entry.2 bound) []

/-- The text of a file; a character cut short by its end is counted from its own start. -/
def decodeFile (bytes : List UInt8) : Except Utf8Fault String :=
  match decodeStrict bytes with
  | .error ⟨_, part, .truncated⟩ => .error ⟨0, part, .truncated⟩
  | outcome => outcome

/-- The file of user directories. -/
def file (world : World) : DirResult := do
  return (← BaseDir.config world).map fun config => config.child "user-dirs.dirs"

/-- The assignments in the file of user directories; none when there is no such file. -/
def assigned (world : World) : Except Fault (List (String × String)) := do
  match ← file world with
  | none => return []
  | some file =>
    match world.readFile file.text with
    | .error _ => return []
    | .ok bytes =>
      match decodeFile bytes with
      | .error fault => throw (.undecodable fault)
      | .ok contents => return assignments contents

/-- The text assigned to a user directory, in a variable or else in the file. -/
def setting (world : World) (name : String) : Except Fault (Option String) :=
  match world.nonEmpty? name with
  | some text => .ok (some text)
  | none => return (← assigned world).lookup name

/-- A user directory: the absolute path assigned to it, or a folder in the home directory. -/
def folder (world : World) (key folder : String) : DirResult :=
  match BaseDir.home world with
  | none => .ok none
  | some home =>
    let fallback := home.child folder
    if world.isUnix && !world.isMac then do
      match ← setting world ("XDG_" ++ key ++ "_DIR") with
      | none => return some fallback
      | some setting =>
        let path := Path.ofText (replace "$HOME" home.text setting)
        return some (if path.isAbsolute then path else fallback)
    else .ok (some fallback)

/-- The desktop. -/
def desktop (world : World) : DirResult := folder world "DESKTOP" "Desktop"

/-- Documents. -/
def documents (world : World) : DirResult := folder world "DOCUMENTS" "Documents"

/-- Downloads. -/
def downloads (world : World) : DirResult := folder world "DOWNLOAD" "Downloads"

/-- Music. -/
def music (world : World) : DirResult := folder world "MUSIC" "Music"

/-- Pictures. -/
def pictures (world : World) : DirResult := folder world "PICTURES" "Pictures"

/-- What is shared with others. -/
def shared (world : World) : DirResult := folder world "PUBLICSHARE" "Public"

/-- Templates for documents; macOS has none. -/
def templates (world : World) : DirResult :=
  if world.isMac then .ok none
  else if world.isWindows then do
    return (← BaseDir.data world).map fun data =>
      data.children ["Microsoft", "Windows", "Templates"]
  else folder world "TEMPLATES" "Templates"

/-- Videos. -/
def videos (world : World) : DirResult :=
  folder world "VIDEOS" (if world.isMac then "Movies" else "Videos")

end PathExpr.Table.UserDir

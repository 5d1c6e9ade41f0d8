import PathExpr.DocumentFormat
import PathExpr.Fault
import PathExpr.Path

/-!
# The machine

Everything that resolution reads from the machine it runs on, as one value:
environment, file system, user database, platform, the room on its stack, and a
source of random draws.  Nothing here changes it.
-/

namespace PathExpr

/-- The machine as resolution sees it. -/
structure World where
  /-- The environment variables. -/
  env : List (String × String)
  /-- The paths that exist, spelled exactly so. -/
  existing : List String
  /-- The readable files and their contents. -/
  files : List (String × List UInt8)
  /-- The home of the current user in the user database. -/
  ownHome : Option String
  /-- The homes of the users that the database knows. -/
  users : List (String × String)
  /-- The name of the platform. -/
  platform : String
  /-- The family of the operating system: `posix`, `nt` or another. -/
  family : String
  /-- Whether the machine runs Android. -/
  android : Bool
  /-- The machine's name for its processor. -/
  machine : String
  /-- The system's directory for temporary files. -/
  tempDir : String
  /-- Whether that directory can be written to. -/
  tempWritable : Bool
  /-- The random draws, numbered from zero for each request. -/
  draw : Nat → Fin 62
  /-- Whether the parts of a document nest deeper than the stack allows for. -/
  outgrows : DocumentFormat → String → Bool

namespace World

/-- The value of an environment variable. -/
def envVar? (world : World) (name : String) : Option String :=
  world.env.lookup name

/-- The value of an environment variable that is set and not empty. -/
def nonEmpty? (world : World) (name : String) : Option String :=
  match world.envVar? name with
  | some "" => none
  | found => found

/-- Whether a path exists. -/
def pathExists (world : World) (path : String) : Bool :=
  world.existing.contains path

/-- The contents of a file. -/
def readFile (world : World) (name : String) : Except Fault (List UInt8) :=
  match world.files.lookup name with
  | some bytes => .ok bytes
  | none => .error (.fileMissing name)

/-- Whether the platform is Windows. -/
def isWindows (world : World) : Bool := world.platform == "win32"

/-- Whether the platform is macOS. -/
def isMac (world : World) : Bool := world.platform == "darwin"

/-- Whether the operating system belongs to the Unix family. -/
def isUnix (world : World) : Bool := world.family == "posix"

/-- The same machine with a variable set, or removed. -/
def setVariable (world : World) (name : String) (value : Option String) : World :=
  let others := world.env.filter fun entry => entry.1 != name
  { world with env := match value with
    | some text => others ++ [(name, text)]
    | none => others }

/-- The same machine with a path made. -/
def create (world : World) (path : String) : World :=
  { world with existing := path :: world.existing }

/-- The same machine with a path removed. -/
def remove (world : World) (path : String) : World :=
  { world with existing := world.existing.filter (· != path) }

/-- A text without the slashes at its end. -/
def dropSlashes (s : String) : String :=
  String.ofList ((s.toList.reverse.dropWhile (· == '/')).reverse)

/-- The home of the current user, or of a named one. -/
def homeOf? (world : World) (name : String) : Option String :=
  if name = "" then
    match world.envVar? "HOME" with
    | some home => some home
    | none => world.ownHome
  else world.users.lookup name

/-- What the tilde component of a path stands for. -/
def tildeHome (world : World) (component : String) : Except Fault Path :=
  match world.homeOf? (String.ofList (component.toList.drop 1)) with
  | none => .error .homeUnknown
  | some home =>
    let text := dropSlashes home
    let text := if text = "" then "/" else text
    if text.toList.head? = some '~' then .error .homeUnknown else .ok (Path.ofText text)

/-- Replaces a first component that begins with a tilde in a relative path. -/
def expandHome (world : World) (p : Path) : Except Fault Path :=
  match p.root, p.parts with
  | .relative, first :: rest =>
    if first.toList.head? = some '~' then do
      let home ← world.tildeHome first
      return ⟨home.root, home.parts ++ rest⟩
    else .ok p
  | _, _ => .ok p

/-- The home directory of the current user. -/
def home (world : World) : Except Fault Path :=
  world.expandHome (Path.ofText "~")

end World

/-- The characters of random texts: the letters of ASCII and the digits. -/
def drawAlphabet : List Char :=
  "abcdefghijklmnopqrstuvwxyzABCDEFGHIJKLMNOPQRSTUVWXYZ0123456789".toList

/-- The character of a draw. -/
def drawnChar (draw : Fin 62) : Char :=
  drawAlphabet.getD draw.val 'a'

/-- A random text of a given length; a negative length is none. -/
def World.randomText (world : World) (length : Int) : String :=
  String.ofList ((List.range length.toNat).map fun position => drawnChar (world.draw position))

end PathExpr

import PathExpr.Config.Basic
import PathExpr.Document
import PathExpr.World

/-!
# Configuration files

A configuration is read from a file whose ending tells its format.  A blank file
gives the default settings; a text that does not follow its format is refused.
-/

namespace PathExpr

namespace Config

/-- The format of files with the given ending. -/
def formatOfExtension? : String → Option DocumentFormat
  | ".json" => some .json
  | ".yaml" => some .yaml
  | ".yml" => some .yaml
  | ".toml" => some .toml
  | _ => none

/-- The settings that the value of a file gives. -/
def ofFileValue (path : String) : Value → Except Fault Config
  | .text s =>
    if Text.isAllBlank s then .ok default else .error (.option path .unparsed)
  | value => ofValue value

/-- The contents of a file that is opened; no file has a name with a null character. -/
def openFile (world : World) (path : String) : Except Fault (List UInt8) :=
  if path.toList.contains '\x00' then .error .nullInName else world.readFile path

/-- The settings in a file. -/
def load (world : World) (path : String) : Except Fault Config :=
  let extension := Text.lower (fileExtension path)
  match formatOfExtension? extension with
  | none => .error (.option path (.fileType extension))
  | some format => do
    let data ← openFile world path
    let value ← Document.readOn world (.bytes data) (some format.word)
    ofFileValue path value

end Config

end PathExpr

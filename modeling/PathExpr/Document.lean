import PathExpr.Format.Json.Reader
import PathExpr.Format.Json.Writer
import PathExpr.Format.Toml.Reader
import PathExpr.Format.Toml.Writer
import PathExpr.Format.Xml.Reader
import PathExpr.Format.Xml.Writer
import PathExpr.Format.Yaml.Reader
import PathExpr.Format.Yaml.Writer
import PathExpr.World

/-!
# Documents

The four text formats behind one reader and one writer.  A document whose format
is not named is taken for what its first character suggests; a text that does
not follow its format stands for itself.  A value that contains itself cannot be
written.
-/

namespace PathExpr

open PathExpr.Format PathExpr.Text

namespace Document

/-- The text of a document that is given as bytes, as a text, or as any other value. -/
def textOf : Value → Except Fault String
  | .bytes data => .ok (decodeLenient data)
  | .byteArray data => .ok (decodeLenient data)
  | value => value.shown

/-- Reads a text in a format; what is no JSON may still be YAML. -/
def readAs (s : String) : DocumentFormat → Except Fault Value
  | .json => otherwise (Json.read s) (otherwise (Yaml.read s) (.ok (.text s)))
  | .yaml => otherwise (Yaml.read s) (.ok (.text s))
  | .toml => otherwise (Toml.read s) (.ok (.text s))
  | .xml => otherwise (Xml.read s) (.ok (.text s))

/-- The format in which a text is read: the named one, or the one it suggests. -/
def formatFor? (format : Option String) (s : String) : Option DocumentFormat :=
  match format with
  | none => DocumentFormat.detect? s
  | some "" => DocumentFormat.detect? s
  | some name => DocumentFormat.ofWord? name

/-- The value of a document; without a known format it is the text. -/
def read (data : Value) (format : Option String) : Except Fault Value := do
  let s ← textOf data
  match formatFor? format s with
  | some format => readAs s format
  | none => return .text s

/-- The value of a document on a machine, whose stack may be too small for the reading. -/
def readOn (world : World) (data : Value) (format : Option String) : Except Fault Value := do
  let s ← textOf data
  match formatFor? format s with
  | some format => if world.outgrows format s then throw (.tooDeep .document) else readAs s format
  | none => return .text s

/-- Writes a value in a format; `root` names the XML element around one that is no mapping. -/
def writeAs (value : Value) (pretty : Bool) (root : String) :
    DocumentFormat → Except Fault String
  | .json => Json.write pretty value
  | .yaml => Yaml.write value
  | .toml =>
    match value with
    | .map entries => Toml.write entries
    | _ => .error .notTable
  | .xml =>
    match value with
    | .map entries => Xml.write pretty entries
    | value => Xml.write pretty [(.text root, value)]

/-- The text of a value in the format with the given name, in whatever case. -/
def write (value : Value) (format : Option String) (pretty : Bool) (root : String) :
    Except Fault String :=
  -- All parts of the value are gone through before the format is looked at.
  if value.isEndless then .error (.tooDeep .entries)
  else
    match DocumentFormat.ofWord? (lower (format.getD "")) with
    | some known => writeAs value.plain pretty root known
    | none => .error (.unsupportedFormat format)

end Document

end PathExpr

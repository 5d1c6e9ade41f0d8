import PathExpr.Namespace
import PathExpr.Value.Display

/-!
# Configuration

Which namespaces are switched on, what package the constants speak of, and how
long random texts are.  A configuration is read from the entries of a mapping,
whose keys may be written with dashes or with underscores.
-/

namespace PathExpr

open PathExpr.Text

/-- The settings of a resolver. -/
structure Config where
  consts : Bool
  dirs : Bool
  project : Bool
  value : Bool
  pkgName : String
  pkgVersion : String
  randLength : Nat
  deriving Repr, DecidableEq

namespace Config

/-- The length of random texts where none is set. -/
def defaultRandLength : Nat := 16

/-- The largest length of a random text. -/
def maxRandLength : Nat := 1024

/-- The settings where none are given. -/
def default : Config :=
  ⟨true, true, true, true, "envpath", "", defaultRandLength⟩

instance : Inhabited Config := ⟨default⟩

/-- Whether the namespace is switched on; the environment always is. -/
def enabled (config : Config) : Namespace → Bool
  | .env => true
  | .const => config.consts
  | .dir => config.dirs
  | .proj => config.project
  | .val => config.value

/-- A truth value, or the fault of an entry that has none. -/
def readSwitch (key : String) : Value → Except Fault Bool
  | .bool b => .ok b
  | value => do
    let shown ← value.display
    throw (.option key (.notSwitch shown))

/-- A length within bounds, or the fault of an entry that has none. -/
def readLength (key : String) (value : Value) : Except Fault Nat :=
  let refuse : Except Fault Nat := do
    let shown ← value.display
    throw (.option key (.notLength maxRandLength shown))
  match value with
  | .int n => if 0 ≤ n && n ≤ maxRandLength then .ok n.toNat else refuse
  | _ => refuse

/-- The text of a text or a number, or the fault of an entry that has none. -/
def readName (key : String) (value : Value) : Except Fault String :=
  match value with
  | .text s => .ok s
  | .bool _ => value.shown
  | .int _ => value.shown
  | .float _ => value.shown
  | _ => do
    let shown ← value.display
    throw (.option key (.notName shown))

/-- The settings with one entry taken over. -/
def withEntry (config : Config) (entry : Value × Value) : Except Fault Config := do
  let key ← entry.1.shown
  match replace "-" "_" key with
  | "consts" => return { config with consts := ← readSwitch key entry.2 }
  | "dirs" => return { config with dirs := ← readSwitch key entry.2 }
  | "project" => return { config with project := ← readSwitch key entry.2 }
  | "value" => return { config with value := ← readSwitch key entry.2 }
  | "pkg_name" => return { config with pkgName := ← readName key entry.2 }
  | "pkg_version" => return { config with pkgVersion := ← readName key entry.2 }
  | "rand_length" => return { config with randLength := ← readLength key entry.2 }
  | _ => throw (.option key .unknown)

/-- The settings with all entries taken over, the first bad one being reported. -/
def withEntries : Config → List (Value × Value) → Except Fault Config
  | config, [] => .ok config
  | config, entry :: rest => do withEntries (← withEntry config entry) rest

/-- The settings that a value describes: the null value describes the default ones. -/
def ofValue (value : Value) : Except Fault Config :=
  match value.opened with
  | .null => .ok default
  | .map entries => withEntries default entries
  | _ => .error (.option "<root>" (.notMapping value.typeName))

/-- The settings as a mapping. -/
def toValue (config : Config) : Value :=
  .map [
    (.text "consts", .bool config.consts), (.text "dirs", .bool config.dirs),
    (.text "project", .bool config.project), (.text "value", .bool config.value),
    (.text "pkg_name", .text config.pkgName), (.text "pkg_version", .text config.pkgVersion),
    (.text "rand_length", .int config.randLength)]

end Config

end PathExpr

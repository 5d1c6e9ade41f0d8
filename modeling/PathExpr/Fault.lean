import PathExpr.Value
import PathExpr.Text.Quoted
import PathExpr.Text.Utf8

/-!
# Faults

Every way in which an operation can fail, with the words that report it.  A
fault names its cause; the wording is in `Fault.message` alone.  A fault that
shows a value carries the text of that value, because a value with an overlong
integer has no text and fails in its own way.
-/

namespace PathExpr

open PathExpr.Text

/-- What is wrong with an entry or a file of the configuration. -/
inductive OptionProblem where
  | unknown
  | notMapping (typeName : String)
  | notSwitch (shown : String)
  | notLength (largest : Nat) (shown : String)
  | notName (shown : String)
  | fileType (extension : String)
  | unparsed
  deriving Repr, DecidableEq

/-- Why a name cannot stand in an XML document. -/
inductive NameFlaw where
  | mark
  | angle
  | slash
  | quote
  | equals
  | blank
  deriving Repr, DecidableEq

/-- Why a value has no XML form. -/
inductive XmlProblem where
  | notOneRoot
  | multipleRoots
  | elementNotText
  | attributeNotText
  | elementName (flaw : NameFlaw)
  | attributeName (flaw : NameFlaw)
  | commentDashes
  | commentEnd
  deriving Repr, DecidableEq

/-- What a list of tables holds in place of a table. -/
inductive RowProblem where
  | notIterable (typeName : String)
  | textIndex (typeName : String)
  | listIndex
  | byteIndex
  | byteArrayIndex
  deriving Repr, DecidableEq

/-- A way inwards that the stack of the machine may be too small for. -/
inductive Descent where
  /-- Through the parts of a document that is read. -/
  | document
  /-- Through mappings in a document that hold a plain value each. -/
  | plainValue
  /-- Through the entries of a value. -/
  | entries
  deriving Repr, DecidableEq

/-- A cause of failure. -/
inductive Fault where
  /-- The home directory of `~` or `~name` is unknown. -/
  | homeUnknown
  /-- A file that must be UTF-8 is not. -/
  | undecodable (fault : Utf8Fault)
  | fileMissing (name : String)
  /-- A decimal integer is too long to be read (so many digits) or to be written. -/
  | tooManyDigits (digits : Option Nat)
  | emptySeparator
  | option (key : String) (problem : OptionProblem)
  /-- A value that is no list of texts. -/
  | notSequence (value : Value) (shown : String)
  /-- A path was asked for before one was resolved. -/
  | unresolved (raw : List String)
  | unsupportedFormat (format : Option String)
  | unserializable (typeName : String)
  | badJsonKey (typeName : String)
  | notTable
  | keyNotText (shown : String)
  | row (problem : RowProblem)
  | escapeUnfinished
  | notIterable (typeName : String)
  | xml (problem : XmlProblem)
  | entityDeclared
  | unrepresentable (shown : String)
  | calendar (flaw : CalendarFlaw)
  | offsetRange (seconds : Int)
  | notInteger (base : Nat) (literal : String)
  | notFloat (literal : String)
  | notSwitchWord (word : String)
  | notTimestamp
  /-- A text was to be taken apart, but a value of another type is there. -/
  | notText (typeName : String)
  | emptyNumber
  /-- An integer lies beyond all floating-point numbers. -/
  | beyondFloat
  | codePoint
  | codeTooLarge
  /-- The way inwards is longer than the stack of the machine allows, or does not end. -/
  | tooDeep (descent : Descent)
  /-- The name of a file has a null character in it. -/
  | nullInName
  deriving Inhabited

/-- The families of faults. -/
inductive FaultKind where
  | value
  | option
  | sequence
  | home
  | file
  | encoding
  | index
  | key
  | type
  | attribute
  | overflow
  | representer
  | recursion
  deriving Repr, DecidableEq

namespace Fault

/-- The family that a fault belongs to. -/
def kind : Fault → FaultKind
  | homeUnknown => .home
  | undecodable _ => .encoding
  | fileMissing _ => .file
  | option _ _ => .option
  | notSequence _ _ => .sequence
  | unserializable _ => .type
  | badJsonKey _ => .type
  | keyNotText _ => .key
  | row _ => .type
  | escapeUnfinished => .index
  | notIterable _ => .type
  | unrepresentable _ => .representer
  | notSwitchWord _ => .key
  | notTimestamp => .attribute
  | notText _ => .type
  | emptyNumber => .index
  | beyondFloat => .overflow
  | codeTooLarge => .overflow
  | tooDeep _ => .recursion
  | _ => .value

/-- A list of texts as a message shows it. -/
def displayTexts (items : List String) : String :=
  "[" ++ ", ".intercalate (items.map quoted) ++ "]"

/-- Where bytes fail to be UTF-8, and why. -/
def utf8Message (fault : Utf8Fault) : String :=
  let reason := match fault.kind with
    | .start => "invalid start byte"
    | .continuation => "invalid continuation byte"
    | .truncated => "unexpected end of data"
  let place := match fault.bytes with
    | [b] => "byte 0x" ++ String.ofList (hexPadded 2 b.toNat) ++ " in position " ++
        toString fault.position
    | bytes => "bytes in position " ++ toString fault.position ++ "-" ++
        toString (fault.position + bytes.length - 1)
  "'utf-8' codec can't decode " ++ place ++ ": " ++ reason

/-- What is wrong with a configuration entry, in words. -/
def optionMessage : OptionProblem → String
  | .unknown => "unknown option"
  | .notMapping typeName => "expected a mapping, got " ++ typeName
  | .notSwitch shown => "expected true/false, got " ++ shown
  | .notLength largest shown =>
    "expected an integer in 0.." ++ toString largest ++ ", got " ++ shown
  | .notName shown => "expected a string, got " ++ shown
  | .fileType extension => "unsupported config file type " ++ quoted extension
  | .unparsed => "could not parse config file"

/-- What is wrong with a name, in words. -/
def nameMessage : NameFlaw → String
  | .mark => "cannot start with \"?\" or \"!\""
  | .angle => "\"<\" or \">\" not allowed"
  | .slash => "\"/\" not allowed"
  | .quote => "quotes not allowed"
  | .equals => "\"=\" not allowed"
  | .blank => "whitespace not allowed"

/-- Why a value has no XML form, in words. -/
def xmlMessage : XmlProblem → String
  | .notOneRoot => "Document must have exactly one root."
  | .multipleRoots => "document with multiple roots"
  | .elementNotText => "element name must be a string"
  | .attributeNotText => "attribute name must be a string"
  | .elementName flaw => "Invalid element name: " ++ nameMessage flaw
  | .attributeName flaw => "Invalid attribute name: " ++ nameMessage flaw
  | .commentDashes => "Comment text cannot contain '--'"
  | .commentEnd => "Comment text cannot end with '-'"

/-- What stands in place of a table, in words. -/
def rowMessage : RowProblem → String
  | .notIterable typeName => "'" ++ typeName ++ "' object is not iterable"
  | .textIndex typeName => "string indices must be integers, not '" ++ typeName ++ "'"
  | .listIndex => "list indices must be integers or slices, not str"
  | .byteIndex => "byte indices must be integers or slices, not str"
  | .byteArrayIndex => "bytearray indices must be integers or slices, not str"

/-- The number of characters of a literal that is no integer that a message shows. -/
def literalWidth : Nat := 200

/-- A span of time as a message shows it: whole days and the seconds that remain. -/
def spanDisplay (seconds : Int) : String :=
  let days := seconds.fdiv 86400
  let rest := seconds.fmod 86400
  let dayPart := if days = 0 then [] else ["days=" ++ toString days]
  let secondPart := if rest = 0 then [] else ["seconds=" ++ toString rest]
  "datetime.timedelta(" ++ ", ".intercalate (dayPart ++ secondPart) ++ ")"

/-- The report of a fault. -/
def message : Fault → String
  | homeUnknown => "Could not determine home directory."
  | undecodable fault => utf8Message fault
  | fileMissing name => "[Errno 2] No such file or directory: " ++ quoted name
  | tooManyDigits none =>
    "Exceeds the limit (4300 digits) for integer string conversion; " ++
    "use sys.set_int_max_str_digits() to increase the limit"
  | tooManyDigits (some digits) =>
    "Exceeds the limit (4300 digits) for integer string conversion: value has " ++
    toString digits ++ " digits; use sys.set_int_max_str_digits() to increase the limit"
  | emptySeparator => "empty separator"
  | option key problem => key ++ ": " ++ optionMessage problem
  | notSequence value shown =>
    "Expected a list of strings, got " ++ value.typeName ++ ": " ++ shown
  | unresolved raw => "EnvPath " ++ displayTexts raw ++ " is not resolved"
  | unsupportedFormat format =>
    "Unsupported serialization format: " ++ (format.map quoted).getD "None"
  | unserializable typeName => "Object of type " ++ typeName ++ " is not JSON serializable"
  | badJsonKey typeName =>
    "keys must be str, int, float, bool or None, not " ++ typeName
  | notTable => "TOML documents must be tables"
  | keyNotText shown => shown
  | row problem => rowMessage problem
  | escapeUnfinished => "list index out of range"
  | notIterable typeName => "'" ++ typeName ++ "' object is not iterable"
  | xml problem => xmlMessage problem
  | entityDeclared => "entities are disabled"
  | unrepresentable shown => "('cannot represent an object', " ++ shown ++ ")"
  | calendar flaw => flaw.message
  | offsetRange seconds =>
    "offset must be a timedelta strictly between -timedelta(hours=24) and " ++
    "timedelta(hours=24), not " ++ spanDisplay seconds ++ "."
  | notInteger base literal =>
    "invalid literal for int() with base " ++ toString base ++ ": " ++
    String.ofList ((quoted literal).toList.take literalWidth)
  | notFloat literal => "could not convert string to float: " ++ quoted literal
  | notSwitchWord word => quoted word
  | notTimestamp => "'NoneType' object has no attribute 'groupdict'"
  | notText typeName => "expected string or bytes-like object, got '" ++ typeName ++ "'"
  | emptyNumber => "string index out of range"
  | beyondFloat => "int too large to convert to float"
  | codePoint => "chr() arg not in range(0x110000)"
  | codeTooLarge => "Python int too large to convert to C int"
  | tooDeep .entries => "maximum recursion depth exceeded in comparison"
  | tooDeep _ => "maximum recursion depth exceeded"
  | nullInName => "embedded null byte"

/-- The offending key of a configuration fault. -/
def optionKey? : Fault → Option String
  | option key _ => some key
  | _ => none

/-- The offending value of a sequence fault. -/
def offendingValue? : Fault → Option Value
  | notSequence value _ => some value
  | _ => none

end Fault

end PathExpr

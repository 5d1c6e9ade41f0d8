import PathExpr.Format.Toml.Scalar
import PathExpr.Value.Display

/-!
# Writing TOML

A mapping is written as the lines of its plain entries, then its lists of
tables, then the tables in it.  Tables stand level by level: all that lie one
level deep come before any that lies deeper, each under a header with its whole
name.  A table that holds nothing but tables has no header of its own.

The text of a table is a result that may be a fault, and faults are looked for
in the order in which the text is written.
-/

namespace PathExpr.Format.Toml

open PathExpr.Text

/-- Each pair of backslashes written as one. -/
def mergeBackslashes : List Char → List Char
  | '\\' :: '\\' :: rest => '\\' :: mergeBackslashes rest
  | c :: rest => c :: mergeBackslashes rest
  | [] => []

/-- The backslash in front of a single quote left out. -/
def bareSingleQuotes : List Char → List Char
  | '\\' :: '\'' :: rest => '\'' :: bareSingleQuotes rest
  | c :: rest => c :: bareSingleQuotes rest
  | [] => []

/--
Whether the letter of a two-digit escape is kept behind a text: it is unless the
backslashes at the text's end, of which the text's first character is never
counted, are even in number and there are any.
-/
def keepsEscapeLetter (cs : List Char) : Bool :=
  let ending := (cs.reverse.takeWhile (· == '\\')).length
  (ending == 0) != (min ending (cs.length - 1) % 2 == 1)

/-- Joins the pieces between two-digit escapes, as four-digit escapes or as plain letters. -/
def joinEscapes : List Char → List (List Char) → List Char
  | head, [] => head
  | head, piece :: rest =>
    let merged := mergeBackslashes head
    let joint := if keepsEscapeLetter merged then ['x'] else ['u', '0', '0']
    joinEscapes (merged ++ joint ++ piece) rest

/-- The characters between the quotes of a basic string. -/
def basicBody (s : String) : Except Fault (List Char) :=
  let shown := (quoted s).toList
  let inner := shown.tail.dropLast
  let body :=
    if shown.head? = some '\'' then
      (bareSingleQuotes inner).flatMap fun c => if c = '"' then ['\\', '"'] else [c]
    else inner
  match splitChars ['\\', 'x'] 0 body with
  | [] => .ok []
  | [whole] => .ok whole
  | [[], _] => .error .escapeUnfinished
  | [] :: head :: rest => .ok (joinEscapes head rest)
  | head :: rest => .ok (joinEscapes head rest)

/-- A text as a basic string. -/
def writeText (s : String) : Except Fault String := do
  return "\"" ++ String.ofList (← basicBody s) ++ "\""

/-- Whether the key is made of bare characters; one line end may follow them. -/
def isBareKey (cs : List Char) : Bool :=
  let body := if cs.getLast? = some '\n' then cs.dropLast else cs
  !body.isEmpty && body.all isBareChar

/-- A key as a document shows it. -/
def writeKey (key : String) : Except Fault String :=
  if isBareKey key.toList then .ok key else writeText key

/-- One leading zero of a written exponent left out. -/
def shortExponent : List Char → List Char
  | 'e' :: '+' :: '0' :: rest => 'e' :: '+' :: rest
  | 'e' :: '-' :: '0' :: rest => 'e' :: '-' :: rest
  | c :: rest => c :: shortExponent rest
  | [] => []

/-- The items of an array: a comma follows each. -/
def writeArray (items : List String) : String :=
  "[" ++ String.join (items.map fun item => " " ++ item ++ ",") ++ "]"

/-- Bytes as the array of their numbers. -/
def writeBytes (data : List UInt8) : String :=
  writeArray (data.map fun b => toString b.toNat)

mutual

/-- A value on the right of an equals sign or in an array; a mapping there is its keys. -/
def writeValue : Value → Except Fault String
  | .null => .ok "\"None\""
  | .bool b => .ok (if b then "true" else "false")
  | .int n => Value.intText n
  | .float x => .ok (String.ofList (shortExponent (Value.plainFloat x).toList))
  | .text s => writeText s
  | .bytes data => .ok (writeBytes data)
  | .byteArray data => .ok (writeBytes data)
  | .list items => return writeArray (← writeItems items)
  | .tuple items => return writeArray (← writeItems items)
  | .set items => return writeArray (← writeItems items)
  | .map entries => return writeArray (← writeKeys entries)
  | value => value.shown

/-- The items of an array, one by one. -/
def writeItems : List Value → Except Fault (List String)
  | [] => .ok []
  | item :: rest => do
    let own ← writeValue item
    let others ← writeItems rest
    return own :: others

/-- The keys of a mapping, one by one. -/
def writeKeys : List (Value × Value) → Except Fault (List String)
  | [] => .ok []
  | (key, _) :: rest => do
    let own ← writeValue key
    let others ← writeKeys rest
    return own :: others

end

/-- The text of a table without the tables in it, and those tables by name. -/
inductive Section where
  | mk (body : Except Fault String) (inner : List (String × Section))

/-- What an entry adds to its table. -/
inductive Part where
  | absent
  | line (value : Except Fault String)
  | rows (tables : List Section)
  | table (inner : Section)

/-- The whole name of a table inside another one. -/
def joinName (path name : String) : String :=
  if path.isEmpty then name else path ++ "." ++ name

/-- A table of a document: its whole name, its text, and whether no table lies in it. -/
structure Placed where
  name : String
  body : Except Fault String
  isInnermost : Bool

/-- Joins two lists of levels level by level. -/
def mergeLevels : List (List Placed) → List (List Placed) → List (List Placed)
  | [], levels => levels
  | levels, [] => levels
  | level :: levels, other :: others => (level ++ other) :: mergeLevels levels others

mutual

/-- A table with the given name and the tables in it, level by level. -/
def Section.levels (name : String) : Section → List (List Placed)
  | .mk body inner => [⟨name, body, inner.isEmpty⟩] :: innerLevels name inner

/-- The tables inside the table with the given name, level by level. -/
def innerLevels (path : String) : List (String × Section) → List (List Placed)
  | [] => []
  | (name, table) :: rest =>
    mergeLevels (table.levels (joinName path name)) (innerLevels path rest)

end

/-- The tables inside the table with the given name, in the order of writing. -/
def placedTables (path : String) (inner : List (String × Section)) : List Placed :=
  (innerLevels path inner).flatten

/-- The tables below one of a list of tables; one without lines of its own is left out. -/
def writeBelow : List Placed → Except Fault String
  | [] => .ok ""
  | table :: rest => do
    let body ← table.body
    let others ← writeBelow rest
    return (if body.isEmpty then "" else "[" ++ table.name ++ "]\n" ++ body) ++ others

/-- A list of tables, each under a header of its own and with the tables in it. -/
def writeRows (path : String) : List Section → Except Fault String
  | [] => .ok ""
  | .mk body inner :: rest => do
    let own ← body
    let below ← writeBelow (placedTables path inner)
    let others ← writeRows path rest
    let spaced := if startsWith "[" own then "\n" ++ own else own ++ "\n"
    return "[[" ++ path ++ "]]\n" ++ spaced ++ below ++ others

/-- Binds a name: its old place is kept and a new one comes last. -/
def bindSection (name : String) (table : Section) :
    List (String × Section) → List (String × Section)
  | [] => [(name, table)]
  | (n, t) :: rest =>
    if n = name then (n, table) :: rest else (n, t) :: bindSection name table rest

/-- The growing text of a table. -/
structure Draft where
  lines : String := ""
  rows : String := ""
  inner : List (String × Section) := []

/-- The draft with one more entry. -/
def Draft.add (draft : Draft) (path name : String) : Part → Except Fault Draft
  | .absent => .ok draft
  | .line value => do
    let value ← value
    return { draft with lines := draft.lines ++ name ++ " = " ++ value ++ "\n" }
  | .rows tables => do
    let text ← writeRows (joinName path name) tables
    return { draft with rows := draft.rows ++ text }
  | .table inner => .ok { draft with inner := bindSection name inner draft.inner }

/-- The parts of a table by the texts of their keys. -/
abbrev Parts := List (String × Except Fault (String × Part))

/--
The draft with an entry for each of the keys.  A key that is no text stands for
the entry whose key is its text, and there must be one.
-/
def Draft.addKeys (path : String) (parts : Parts) : Draft → List Value → Except Fault Draft
  | draft, [] => .ok draft
  | draft, key :: rest => do
    let text ← key.shown
    match parts.lookup text with
    | some part =>
      let (name, part) ← part
      Draft.addKeys path parts (← draft.add path name part) rest
    | none =>
      discard (writeKey text)
      throw (.keyNotText (quoted text))

/-- The table with the given keys and parts. -/
def Section.ofKeys (path : String) (keys : List Value) (parts : Parts) : Section :=
  match Draft.addKeys path parts {} keys with
  | .ok draft => .mk (.ok (draft.lines ++ draft.rows)) draft.inner
  | .error fault => .mk (.error fault) []

/-- What stands in a list of tables without being a table: only what is empty can. -/
def rowBody : Value → Except Fault String
  | .text s =>
    match s.toList with
    | [] => .ok ""
    | c :: _ => do
      discard (writeKey (String.singleton c))
      throw (.row (.textIndex "str"))
  | .list [] => .ok ""
  | .list (item :: _) => do
    let text ← item.shown
    discard (writeKey text)
    throw (.row .listIndex)
  | .bytes data => if data.isEmpty then .ok "" else .error (.row .byteIndex)
  | .byteArray data => if data.isEmpty then .ok "" else .error (.row .byteArrayIndex)
  | value => .error (.row (.notIterable value.typeName))

/-- Whether the value is a mapping. -/
def isTable : Value → Bool
  | .map _ => true
  | _ => false

mutual

/-- What a value adds to the table in which it has the given whole name. -/
def partOf (name : String) : Value → Part
  | .null => .absent
  | .map entries => .table (.ofKeys name (entries.map (·.1)) (partsOf name entries))
  | .list items =>
    if items.any isTable then .rows (rowsOf name items) else .line (writeValue (.list items))
  | value => .line (writeValue value)

/-- What the entries with texts for keys add to the table with the given name. -/
def partsOf (path : String) : List (Value × Value) → Parts
  | [] => []
  | (.text key, value) :: rest =>
    let part := match writeKey key with
      | .ok name => .ok (name, partOf (joinName path name) value)
      | .error fault => .error fault
    (key, part) :: partsOf path rest
  | _ :: rest => partsOf path rest

/-- The tables of a list of tables. -/
def rowsOf (path : String) : List Value → List Section
  | [] => []
  | .map entries :: rest =>
    .ofKeys path (entries.map (·.1)) (partsOf path entries) :: rowsOf path rest
  | item :: rest => .mk (rowBody item) [] :: rowsOf path rest

end

/-- The text with a table behind it, a blank line between them. -/
def appendTable (written : String) (table : Placed) (body : String) : String :=
  if body.isEmpty && !table.isInnermost then written
  else
    let gap := if written.isEmpty || endsWith "\n\n" written then "" else "\n"
    written ++ gap ++ "[" ++ table.name ++ "]\n" ++ body

/-- The text with the tables behind it. -/
def appendTables : String → List Placed → Except Fault String
  | written, [] => .ok written
  | written, table :: rest => do
    let body ← table.body
    appendTables (appendTable written table body) rest

/-- The TOML text of a mapping. -/
def write (entries : List (Value × Value)) : Except Fault String :=
  match Section.ofKeys "" (entries.map (·.1)) (partsOf "" entries) with
  | .mk body inner => do
    let written ← body
    appendTables written (placedTables "" inner)

end PathExpr.Format.Toml

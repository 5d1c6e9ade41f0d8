import PathExpr.Format.Toml.Scalar
import PathExpr.Format.Toml.Table

/-!
# Reading TOML

A document is a sequence of lines: entries, headers of tables, headers of arrays
of tables, and comments.
-/

namespace PathExpr.Format.Toml

open PathExpr.Number

/-- A name of a key: bare, or quoted on one line. -/
def keyName : List Char → Reading (String × List Char)
  | '"' :: rest => do
    let (text, rest) ← basicText false (rest.length + 1) rest
    return (String.ofList text, rest)
  | '\'' :: rest => do
    let (text, rest) ← literalText ['\''] isControl rest
    return (String.ofList text, rest)
  | cs =>
    let name := cs.takeWhile isBareChar
    if name.isEmpty then malformed else .ok (String.ofList name, cs.dropWhile isBareChar)

/-- Names with points between them, and the blanks around these. -/
def keyNames : Nat → List Char → Reading (Key × List Char)
  | 0, _ => malformed
  | fuel + 1, cs => do
    let (name, rest) ← keyName cs
    match skipGap rest with
    | '.' :: rest => do
      let (names, rest) ← keyNames fuel (skipGap rest)
      return (name :: names, rest)
    | rest => return ([name], rest)

/-- A key with the blanks behind it. -/
def readKey (cs : List Char) : Reading (Key × List Char) :=
  keyNames (cs.length + 1) cs

/-- What follows blanks, line ends and comments inside an array. -/
def skipArrayGap : Nat → List Char → Reading (List Char)
  | 0, cs => .ok cs
  | fuel + 1, cs => do
    match cs.dropWhile isGapOrLine with
    | '#' :: rest => do
      let rest ← skipComment ('#' :: rest)
      skipArrayGap fuel rest
    | rest => return rest

/-- Adds an entry to an inline table. -/
def addInline (key : Key) (value : Value) (entries : Entries) : Reading Entries := do
  let (parent, name) ← require (splitKey? key)
  require (changeTable false (addEntry name value) parent entries)

/-- Whether the value is a table or an array. -/
def isCollection : Value → Bool
  | .map _ => true
  | .list _ => true
  | _ => false

mutual

/-- Reads a value. -/
def readValue : Nat → List Char → Reading (Value × List Char)
  | 0, _ => malformed
  | fuel + 1, cs =>
    match quotedText? cs with
    | some part => do
      let (text, rest) ← part
      return (.text text, rest)
    | none =>
      match cs with
      | '[' :: rest => do
        let (items, rest) ← readItems fuel rest
        return (.list items, rest)
      | '\x7b' :: rest =>
        match skipGap rest with
        | '\x7d' :: rest => .ok (.map [], rest)
        | rest => do
          let (entries, rest) ← readMembers fuel .none [] rest
          return (.map entries, rest)
      | cs => plainScalar cs

/-- Reads the items of an array up to its end; a comma may stand before that. -/
def readItems : Nat → List Char → Reading (List Value × List Char)
  | 0, _ => malformed
  | fuel + 1, cs => do
    match ← skipArrayGap cs.length cs with
    | ']' :: rest => return ([], rest)
    | rest => do
      let (item, rest) ← readValue fuel rest
      match ← skipArrayGap rest.length rest with
      | ']' :: rest => return ([item], rest)
      | ',' :: rest => do
        let (items, rest) ← readItems fuel rest
        return (item :: items, rest)
      | _ => malformed

/-- Reads the members of an inline table up to its end. -/
def readMembers : Nat → Declared → Entries → List Char → Reading (Entries × List Char)
  | 0, _, _, _ => malformed
  | fuel + 1, declared, entries, cs => do
    let (key, value, rest) ← readEntry fuel cs
    if declared.isClosed key then malformed
    else
      let entries ← addInline key value entries
      match skipGap rest with
      | '\x7d' :: rest => return (entries, rest)
      | ',' :: rest =>
        let declared := if isCollection value then declared.close key else declared
        readMembers fuel declared entries (skipGap rest)
      | _ => malformed

/-- Reads a key, an equals sign and a value. -/
def readEntry : Nat → List Char → Reading (Key × Value × List Char)
  | 0, _ => malformed
  | fuel + 1, cs => do
    let (key, rest) ← readKey cs
    match rest with
    | '=' :: rest => do
      let (value, rest) ← readValue fuel (skipGap rest)
      return (key, value, rest)
    | _ => malformed

end

/-- A document as far as it has been read. -/
structure Progress where
  entries : Entries
  declared : Declared
  /-- The table that entries belong to. -/
  header : Key

/-- The proper non-empty beginnings of a key. -/
def properBeginnings (key : Key) : List Key :=
  (List.range (key.length - 1)).map fun n => key.take (n + 1)

/-- Takes over an entry of the current table. -/
def Progress.addEntry (progress : Progress) (key : Key) (value : Value) :
    Reading Progress := do
  let (parent, name) ← require (splitKey? key)
  let onTheWay := (properBeginnings key).map (progress.header ++ ·)
  let declared := progress.declared
  if onTheWay.any declared.isOpened || declared.isClosed (progress.header ++ parent) then malformed
  else
    let entries ← require
      (changeTable true (Toml.addEntry name value) (progress.header ++ parent) progress.entries)
    let declared := onTheWay.foldl Declared.defer declared
    let declared :=
      if isCollection value then declared.close (progress.header ++ key) else declared
    return { progress with entries := entries, declared := declared }

/-- Opens the table of a header. -/
def Progress.openTable (progress : Progress) (key : Key) : Reading Progress := do
  let declared := progress.declared
  if declared.isOpened key || declared.isClosed key then malformed
  else
    let entries ← require (changeTable true some key progress.entries)
    return ⟨entries, declared.markOpened key, key⟩

/-- Adds a table to the array of a header. -/
def Progress.openItem (progress : Progress) (key : Key) : Reading Progress := do
  let (parent, name) ← require (splitKey? key)
  if progress.declared.isClosed key then malformed
  else
    let entries ← require (changeTable true (addTable name) parent progress.entries)
    return ⟨entries, (progress.declared.forget key).markOpened key, key⟩

/-- Reads the header behind its opening brackets. -/
def readHeader (progress : Progress) (cs : List Char) : Reading (Progress × List Char) := do
  let progress := { progress with declared := progress.declared.settle }
  match cs with
  | '[' :: rest => do
    let (key, rest) ← readKey (skipGap rest)
    let progress ← progress.openItem key
    match rest with
    | ']' :: ']' :: rest => return (progress, rest)
    | _ => malformed
  | rest => do
    let (key, rest) ← readKey (skipGap rest)
    let progress ← progress.openTable key
    match rest with
    | ']' :: rest => return (progress, rest)
    | _ => malformed

/-- Reads one statement, if there is one before the end of the line. -/
def readStatement (progress : Progress) (cs : List Char) : Reading (Progress × List Char) :=
  match cs with
  | [] => .ok (progress, [])
  | '\n' :: _ => .ok (progress, cs)
  | '#' :: _ => .ok (progress, cs)
  | '[' :: rest => readHeader progress rest
  | cs => do
    let (key, value, rest) ← readEntry (2 * cs.length + 2) cs
    let progress ← progress.addEntry key value
    return (progress, rest)

/-- Reads the lines of a document. -/
def readLines : Nat → Progress → List Char → Reading Progress
  | 0, _, _ => malformed
  | fuel + 1, progress, cs => do
    let (progress, rest) ← readStatement progress (skipGap cs)
    match ← skipComment (skipGap rest) with
    | [] => return progress
    | '\n' :: rest => readLines fuel progress rest
    | _ => malformed

/-- Line feeds in place of the line ends with two characters. -/
def unifyLines : List Char → List Char
  | [] => []
  | '\r' :: '\n' :: rest => '\n' :: unifyLines rest
  | c :: rest => c :: unifyLines rest

/-- The table of a TOML document. -/
def read (s : String) : Reading Value := do
  let cs := unifyLines s.toList
  let progress ← readLines (cs.length + 1) ⟨[], .none, []⟩ cs
  return .map progress.entries

end PathExpr.Format.Toml

import PathExpr.Value

/-!
# Tables of TOML

A document builds nested tables statement by statement.  What has been declared
once cannot be declared again: an inline table or array admits no additions at
all, and a table that a header or a dotted key has opened no second header.
-/

namespace PathExpr.Format.Toml

/-- The names that lead to a table. -/
abbrev Key := List String

/-- The entries of a table. -/
abbrev Entries := List (Value × Value)

/-- What has been declared. -/
structure Declared where
  /-- Inline tables and arrays, which are closed with all that is in them. -/
  closed : List Key
  /-- Tables that no header may open again. -/
  opened : List Key
  /-- Tables that dotted keys have made, to be counted as opened from the next header on. -/
  pending : List Key
  deriving Repr, DecidableEq

namespace Declared

/-- Nothing declared. -/
def none : Declared := ⟨[], [], []⟩

/-- Whether the key lies in a closed table or array. -/
def isClosed (declared : Declared) (key : Key) : Bool :=
  declared.closed.any fun done => done.isPrefixOf key

/-- Whether no header may open the table. -/
def isOpened (declared : Declared) (key : Key) : Bool :=
  declared.opened.contains key

/-- Closes an inline table or array. -/
def close (declared : Declared) (key : Key) : Declared :=
  { declared with closed := key :: declared.closed }

/-- Counts a table as opened. -/
def markOpened (declared : Declared) (key : Key) : Declared :=
  { declared with opened := key :: declared.opened }

/-- Counts a table as opened from the next header on. -/
def defer (declared : Declared) (key : Key) : Declared :=
  { declared with pending := key :: declared.pending }

/-- Counts the deferred tables as opened. -/
def settle (declared : Declared) : Declared :=
  ⟨declared.closed, declared.pending ++ declared.opened, []⟩

/-- Forgets what was declared at a key and below it. -/
def forget (declared : Declared) (key : Key) : Declared :=
  { declared with
    closed := declared.closed.filter fun done => !key.isPrefixOf done
    opened := declared.opened.filter fun done => !key.isPrefixOf done }

end Declared

/--
Changes the table that a key leads to; missing tables on the way are made.  An
array of tables on the way, where arrays may be entered, stands for its last
table.
-/
def changeTable (enterArrays : Bool) (change : Entries → Option Entries) :
    Key → Entries → Option Entries
  | [], entries => change entries
  | name :: rest, entries => do
    let changed ← match Value.lookup? (.text name) entries with
      | none => (changeTable enterArrays change rest []).map .map
      | some (.map inner) => (changeTable enterArrays change rest inner).map .map
      | some (.list items) =>
        match items.getLast? with
        | some (.map inner) =>
          if enterArrays then
            (changeTable enterArrays change rest inner).map fun changed =>
              .list (items.dropLast ++ [.map changed])
          else none
        | _ => none
      | some _ => none
    some (Value.insert (.text name) changed entries)

/-- Adds a new entry to a table. -/
def addEntry (name : String) (value : Value) (entries : Entries) : Option Entries :=
  match Value.lookup? (.text name) entries with
  | some _ => none
  | none => some (entries ++ [(.text name, value)])

/-- Adds an empty table to the array of a name, which is made if need be. -/
def addTable (name : String) (entries : Entries) : Option Entries :=
  match Value.lookup? (.text name) entries with
  | none => some (entries ++ [(.text name, .list [.map []])])
  | some (.list items) =>
    some (Value.insert (.text name) (.list (items ++ [.map []])) entries)
  | some _ => none

/-- The last name of a key and the names before it. -/
def splitKey? (key : Key) : Option (Key × String) :=
  key.getLast?.map fun name => (key.dropLast, name)

end PathExpr.Format.Toml

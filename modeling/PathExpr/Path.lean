import PathExpr.Text.Split

/-!
# Paths

A path is a root and a list of components.  Reading a text drops empty
components and single dots and keeps double dots; exactly two leading slashes
are a root of their own.  A path that has a root replaces whatever it is joined
to.
-/

namespace PathExpr

/-- Where a path starts. -/
inductive Root where
  | relative
  | single
  | double
  deriving Repr, DecidableEq, Inhabited

/-- A path in the notation with slashes. -/
structure Path where
  root : Root
  parts : List String
  deriving Repr, DecidableEq, Inhabited

namespace Root

/-- The slashes that a root is written with. -/
def text : Root → String
  | relative => ""
  | single => "/"
  | double => "//"

/-- The root that the leading slashes of a text stand for. -/
def ofChars : List Char → Root
  | '/' :: '/' :: '/' :: _ => single
  | '/' :: '/' :: _ => double
  | '/' :: _ => single
  | _ => relative

end Root

namespace Path

/-- The empty path. -/
def empty : Path := ⟨.relative, []⟩

/-- Whether a piece between slashes is a component. -/
def isComponent (piece : String) : Bool :=
  piece != "" && piece != "."

/-- Reads a path. -/
def ofText (s : String) : Path :=
  ⟨Root.ofChars s.toList, (Text.split "/" s).filter isComponent⟩

/-- Writes a path; the empty path is a dot. -/
def text (p : Path) : String :=
  match p.root, p.parts with
  | .relative, [] => "."
  | root, parts => root.text ++ Text.join "/" parts

/-- The second path as seen from the first. -/
def append (p q : Path) : Path :=
  if q.root = .relative then ⟨p.root, p.parts ++ q.parts⟩ else q

instance : Append Path := ⟨append⟩

theorem append_def (p q : Path) :
    p ++ q = if q.root = .relative then ⟨p.root, p.parts ++ q.parts⟩ else q := rfl

@[simp]
theorem append_empty (p : Path) : p ++ empty = p := by
  simp [append_def, empty]

@[simp]
theorem empty_append (p : Path) : empty ++ p = p := by
  rcases p with ⟨_ | _ | _, parts⟩ <;> simp [append_def, empty]

theorem append_assoc (p q r : Path) : p ++ q ++ r = p ++ (q ++ r) := by
  simp only [append_def]
  by_cases hr : r.root = .relative <;> by_cases hq : q.root = .relative <;>
    simp [hr, hq, List.append_assoc]

/-- The path with a text read as a path below it. -/
def child (p : Path) (s : String) : Path :=
  p ++ ofText s

/-- The path with several texts below it, one after the other. -/
def children (p : Path) (names : List String) : Path :=
  names.foldl child p

/-- Whether the path starts at a root. -/
def isAbsolute (p : Path) : Bool :=
  p.root != .relative

/-- The path without its last component. -/
def parent (p : Path) : Path :=
  ⟨p.root, p.parts.dropLast⟩

end Path

/-- The ending of a file name from its last dot on, unless only dots stand before it. -/
def fileExtension (s : String) : String :=
  let name := ((s.toList.reverse.takeWhile (· != '/')).reverse)
  let tail := name.reverse.takeWhile (· != '.')
  let stem := (name.reverse.drop (tail.length + 1)).reverse
  if tail.length < name.length && stem.any (· != '.') then
    String.ofList ('.' :: tail.reverse)
  else ""

end PathExpr

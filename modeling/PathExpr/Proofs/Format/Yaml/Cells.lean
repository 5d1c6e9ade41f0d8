import PathExpr.Format.Yaml.Cell

/-!
# Characters at a place

The cells of a document are its characters from its first place on.  What is
said about them here follows the characters: passing over some of them leaves
the cells of the others, from a place further on.
-/

namespace PathExpr.Format.Yaml

/-! ## Line ends -/

/-- A line end of one character, as a document is read. -/
def unifiedBreak (c : Char) : Char :=
  if c = '\x85' then '\n' else c

/-- Without carriage returns, line ends are unified character by character. -/
theorem unifyBreaks_eq_map {cs : List Char} (noReturn : '\r' ∉ cs) :
    unifyBreaks cs = cs.map unifiedBreak := by
  fun_induction unifyBreaks cs with
  | case1 => rfl
  | case2 => simp at noReturn
  | case3 => simp at noReturn
  | case4 rest ih =>
      rw [ih (fun member => noReturn (List.mem_cons_of_mem _ member))]
      rfl
  | case5 c rest _ _ other ih =>
      have same : unifiedBreak c = c := if_neg other
      rw [ih (fun member => noReturn (List.mem_cons_of_mem _ member)), List.map_cons, same]

theorem unifiedBreak_of_ne {c : Char} (other : c ≠ '\x85') : unifiedBreak c = c :=
  if_neg other

/-- Only next-line characters are changed. -/
theorem map_unifiedBreak {cs : List Char} (none : '\x85' ∉ cs) : cs.map unifiedBreak = cs := by
  rw [List.map_congr_left (g := id), List.map_id]
  intro c member
  exact unifiedBreak_of_ne fun same => none (same ▸ member)

theorem unifiedBreak_ne (c : Char) : unifiedBreak c ≠ '\x85' := by
  unfold unifiedBreak
  split
  · decide
  · assumption

/-! ## Places -/

/-- A place in a document. -/
structure Place where
  index : Nat
  line : Nat
  column : Nat

namespace Place

variable (p : Place)

/-- A character at the place. -/
def cell (c : Char) : Cell :=
  ⟨c, p.index, p.line, p.column⟩

/-- The place behind a character. -/
def next (c : Char) : Place :=
  if isBreak c then ⟨p.index + 1, p.line + 1, 0⟩
  else ⟨p.index + 1, p.line, if c = byteOrderMark then p.column else p.column + 1⟩

/-- The place behind characters. -/
def after (cs : List Char) : Place :=
  cs.foldl next p

/-- The cells of characters from the place on. -/
def cells (cs : List Char) : List Cell :=
  cellsFrom p.index p.line p.column cs

variable {p}

@[simp]
theorem char_cell (c : Char) : (p.cell c).char = c :=
  rfl

/-- The cells of a text are the cell of its first character and those of the rest, one place on. -/
theorem cells_cons (c : Char) (cs : List Char) :
    p.cells (c :: cs) = p.cell c :: (p.next c).cells cs := by
  rw [cells, cellsFrom, next]
  split <;> rfl

@[simp]
theorem after_nil : p.after [] = p :=
  rfl

@[simp]
theorem after_cons (c : Char) (cs : List Char) : p.after (c :: cs) = (p.next c).after cs :=
  rfl

/-- The place behind two texts is reached through the place behind the first. -/
theorem after_append (cs others : List Char) :
    p.after (cs ++ others) = (p.after cs).after others :=
  List.foldl_append

/-- There is one cell more than characters: the mark of the end. -/
@[simp]
theorem length_cells (cs : List Char) : (p.cells cs).length = cs.length + 1 := by
  induction cs generalizing p with
  | nil => rfl
  | cons c cs ih => rw [cells_cons, List.length_cons, ih, List.length_cons]

@[simp]
theorem peek_cells (c : Char) (cs : List Char) : peek (p.cells (c :: cs)) = c := by
  rw [cells_cons]
  rfl

@[simp]
theorem peek_cells_nil : peek (p.cells []) = endChar :=
  rfl

@[simp]
theorem drop_one_cells (c : Char) (cs : List Char) :
    (p.cells (c :: cs)).drop 1 = (p.next c).cells cs := by
  rw [cells_cons]
  rfl

/-- Passing over as many cells as a text is long leaves the cells behind the text. -/
theorem drop_cells (cs rest : List Char) :
    (p.cells (cs ++ rest)).drop cs.length = (p.after cs).cells rest := by
  induction cs generalizing p with
  | nil => rfl
  | cons c cs ih =>
      rw [List.cons_append, cells_cons, List.length_cons, List.drop_succ_cons, ih]
      rfl

/-- The characters of the cells passed over are those of the text. -/
theorem take_cells (cs rest : List Char) :
    ((p.cells (cs ++ rest)).take cs.length).map Cell.char = cs := by
  induction cs generalizing p with
  | nil => rfl
  | cons c cs ih =>
      rw [List.cons_append, cells_cons, List.length_cons, List.take_succ_cons, List.map_cons, ih]
      rfl

@[simp]
theorem peekAt_one_cells (c : Char) (cs : List Char) :
    peekAt 1 (p.cells (c :: cs)) = peek ((p.next c).cells cs) := by
  rw [peekAt, drop_one_cells]

/-- The column of the next cell is that of the place, at the end as well. -/
@[simp]
theorem columnOf_cells (cs : List Char) : columnOf (p.cells cs) = p.column := by
  cases cs with
  | nil => rfl
  | cons c cs =>
      rw [cells_cons]
      rfl

/-- A line end begins a new line. -/
theorem column_next_of_break {c : Char} (ends : isBreak c = true) : (p.next c).column = 0 := by
  rw [next, if_pos ends]

theorem column_next_of_space : (p.next ' ').column = p.column + 1 :=
  rfl

/-! ## Runs of characters -/

section Runs

variable {test : Char → Bool}

/-- No character is taken when the next one fails the test already. -/
theorem takeChars_of_stop {cells : List Cell} (stops : test (peek cells) = false) :
    takeChars test cells = [] := by
  cases cells with
  | nil => rfl
  | cons cell cells =>
      have none : (cell :: cells).takeWhile (fun cell => test cell.char) = [] :=
        List.takeWhile_cons_of_neg (Bool.eq_false_iff.mp stops)
      rw [takeChars, none, List.map_nil]

theorem dropChars_of_stop {cells : List Cell} (stops : test (peek cells) = false) :
    dropChars test cells = cells := by
  cases cells with
  | nil => rfl
  | cons cell cells => exact List.dropWhile_cons_of_neg (Bool.eq_false_iff.mp stops)

variable {run rest : List Char}

/-- A run is taken as a whole when all of it passes the test and what follows it does not. -/
theorem takeChars_cells (all : ∀ c ∈ run, test c = true)
    (stops : test (peek ((p.after run).cells rest)) = false) :
    takeChars test (p.cells (run ++ rest)) = run := by
  induction run generalizing p with
  | nil => exact takeChars_of_stop stops
  | cons c run ih =>
      have here := all c List.mem_cons_self
      have others := ih (fun d member => all d (List.mem_cons_of_mem c member)) stops
      rw [List.cons_append, cells_cons, takeChars, List.takeWhile_cons, char_cell, if_pos here,
        List.map_cons, ← takeChars, others]
      rfl

/-- What follows the run is left, from the place behind it on. -/
theorem dropChars_cells (all : ∀ c ∈ run, test c = true)
    (stops : test (peek ((p.after run).cells rest)) = false) :
    dropChars test (p.cells (run ++ rest)) = (p.after run).cells rest := by
  induction run generalizing p with
  | nil => exact dropChars_of_stop stops
  | cons c run ih =>
      have here := all c List.mem_cons_self
      rw [List.cons_append, cells_cons, dropChars, List.dropWhile_cons, char_cell, if_pos here,
        ← dropChars, ih (fun d member => all d (List.mem_cons_of_mem c member)) stops]
      rfl

end Runs

end Place

/-- The first place of a document. -/
def Place.first : Place :=
  ⟨0, 0, 0⟩

/-- The cells of a document that has no carriage returns and begins with no byte order mark. -/
theorem cellsOf_eq {c : Char} {rest : List Char} (noReturn : '\r' ∉ c :: rest)
    (noMark : c ≠ byteOrderMark) :
    cellsOf (c :: rest) = Place.first.cells ((c :: rest).map unifiedBreak) := by
  have kept : unifiedBreak c ≠ byteOrderMark := by
    unfold unifiedBreak
    split
    · decide
    · exact noMark
  rw [cellsOf, unifyBreaks_eq_map noReturn, List.map_cons]
  exact if_neg kept

end PathExpr.Format.Yaml

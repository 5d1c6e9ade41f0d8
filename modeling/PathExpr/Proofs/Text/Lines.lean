import PathExpr.Text.Lines

/-!
# Texts and their lines

A text is a run of lines, each with its end behind it.  Only the last line may stand
without an end, and then it is not empty.  The three ends may be mixed, and a carriage
return before a line feed is one end together with it.

Every text is such a run in one way only, and its lines are the ones that are read.
-/

namespace PathExpr.Text

/-- No line ends within the text. -/
structure IsLine (line : List Char) : Prop where
  noFeed : '\n' ∉ line
  noReturn : '\r' ∉ line

theorem isLine_nil : IsLine [] :=
  ⟨List.not_mem_nil, List.not_mem_nil⟩

theorem isLine_cons_iff {c : Char} {line : List Char} :
    IsLine (c :: line) ↔ (c ≠ '\n' ∧ c ≠ '\r') ∧ IsLine line := by
  constructor
  · rintro ⟨noFeed, noReturn⟩
    simp only [List.mem_cons, not_or] at noFeed noReturn
    exact ⟨⟨Ne.symm noFeed.1, Ne.symm noReturn.1⟩, noFeed.2, noReturn.2⟩
  · rintro ⟨⟨feed, carriage⟩, noFeed, noReturn⟩
    exact ⟨by simp [feed.symm, noFeed], by simp [carriage.symm, noReturn]⟩

/-- The lines that a text consists of, by the end of the first of them. -/
inductive LinesOf : List Char → List (List Char) → Prop where
  | none : LinesOf [] []
  | unended {line : List Char} (inner : IsLine line) (filled : line ≠ []) : LinesOf line [line]
  | feed {line rest : List Char} {lines : List (List Char)} (inner : IsLine line)
      (behind : LinesOf rest lines) : LinesOf (line ++ '\n' :: rest) (line :: lines)
  | both {line rest : List Char} {lines : List (List Char)} (inner : IsLine line)
      (behind : LinesOf rest lines) : LinesOf (line ++ '\r' :: '\n' :: rest) (line :: lines)
  | carriage {line rest : List Char} {lines : List (List Char)} (inner : IsLine line)
      (alone : rest.head? ≠ some '\n') (behind : LinesOf rest lines) :
      LinesOf (line ++ '\r' :: rest) (line :: lines)

/-! ## Reading lines -/

theorem unifyLineEnds_cons {c : Char} (other : c ≠ '\r') (rest : List Char) :
    unifyLineEnds (c :: rest) = c :: unifyLineEnds rest := by
  cases rest with
  | nil => simp [unifyLineEnds]
  | cons d rest => simp [unifyLineEnds, other]

theorem unifyLineEnds_carriage {rest : List Char} (alone : rest.head? ≠ some '\n') :
    unifyLineEnds ('\r' :: rest) = '\n' :: unifyLineEnds rest := by
  cases rest with
  | nil => rfl
  | cons d rest =>
      have other : d ≠ '\n' := fun same => alone (by rw [same, List.head?_cons])
      simp [unifyLineEnds, other]

theorem unifyLineEnds_append {line : List Char} (inner : IsLine line) (rest : List Char) :
    unifyLineEnds (line ++ rest) = line ++ unifyLineEnds rest := by
  induction line with
  | nil => rfl
  | cons c line ih =>
      obtain ⟨⟨-, other⟩, inner⟩ := isLine_cons_iff.mp inner
      rw [List.cons_append, unifyLineEnds_cons other, ih inner, List.cons_append]

theorem splitLines_cons {c : Char} (other : c ≠ '\n') {rest line : List Char}
    {lines : List (List Char)} (read : splitLines rest = line :: lines) :
    splitLines (c :: rest) = (c :: line) :: lines := by
  simp [splitLines, read]

theorem splitLines_feed {line : List Char} (inner : IsLine line) (rest : List Char) :
    splitLines (line ++ '\n' :: rest) = line :: splitLines rest := by
  induction line with
  | nil => rfl
  | cons c line ih =>
      obtain ⟨⟨other, -⟩, inner⟩ := isLine_cons_iff.mp inner
      exact splitLines_cons other (ih inner)

theorem splitLines_unended {line : List Char} (inner : IsLine line) (filled : line ≠ []) :
    splitLines line = [line] := by
  induction line with
  | nil => exact (filled rfl).elim
  | cons c line ih =>
      obtain ⟨⟨other, -⟩, inner⟩ := isLine_cons_iff.mp inner
      by_cases last : line = []
      · subst last
        simp [splitLines]
      · exact splitLines_cons other (ih inner last)

/-- The lines of a text are the ones that are read. -/
theorem LinesOf.eq_splitLines {cs : List Char} {lines : List (List Char)}
    (isRun : LinesOf cs lines) : splitLines (unifyLineEnds cs) = lines := by
  induction isRun with
  | none => rfl
  | unended inner filled =>
      have unified := unifyLineEnds_append inner []
      rw [List.append_nil] at unified
      rw [unified, unifyLineEnds, List.append_nil, splitLines_unended inner filled]
  | feed inner _ ih =>
      rw [unifyLineEnds_append inner, unifyLineEnds_cons (by decide), splitLines_feed inner, ih]
  | both inner _ ih =>
      rw [unifyLineEnds_append inner, unifyLineEnds, splitLines_feed inner, ih]
  | carriage inner alone _ ih =>
      rw [unifyLineEnds_append inner, unifyLineEnds_carriage alone, splitLines_feed inner, ih]

/-- A character that ends no line belongs to the first line. -/
theorem LinesOf.cons {c : Char} (other : c ≠ '\n' ∧ c ≠ '\r') {cs : List Char}
    {lines : List (List Char)} (isRun : LinesOf cs lines) : ∃ all, LinesOf (c :: cs) all := by
  have extended {line : List Char} (inner : IsLine line) : IsLine (c :: line) :=
    isLine_cons_iff.mpr ⟨other, inner⟩
  cases isRun with
  | none => exact ⟨_, .unended (extended isLine_nil) (List.cons_ne_nil c [])⟩
  | unended inner _ => exact ⟨_, .unended (extended inner) (List.cons_ne_nil c _)⟩
  | feed inner behind => exact ⟨_, .feed (extended inner) behind⟩
  | both inner behind => exact ⟨_, .both (extended inner) behind⟩
  | carriage inner alone behind => exact ⟨_, .carriage (extended inner) alone behind⟩

theorem exists_linesOf (cs : List Char) : ∃ lines, LinesOf cs lines := by
  fun_induction unifyLineEnds cs with
  | case1 => exact ⟨[], .none⟩
  | case2 rest ih =>
      obtain ⟨lines, behind⟩ := ih
      exact ⟨_, .both isLine_nil behind⟩
  | case3 rest alone ih =>
      obtain ⟨lines, behind⟩ := ih
      refine ⟨_, .carriage isLine_nil ?_ behind⟩
      intro begins
      obtain ⟨tail, rfl⟩ := List.head?_eq_some_iff.mp begins
      exact alone tail rfl
  | case4 c rest _ other ih =>
      obtain ⟨lines, behind⟩ := ih
      by_cases ends : c = '\n'
      · subst ends
        exact ⟨_, .feed isLine_nil behind⟩
      · exact behind.cons ⟨ends, other⟩

/-- Every text is a run of lines in one way, and these are read. -/
theorem linesOf_iff {cs : List Char} {lines : List (List Char)} :
    LinesOf cs lines ↔ splitLines (unifyLineEnds cs) = lines := by
  constructor
  · exact LinesOf.eq_splitLines
  · rintro rfl
    obtain ⟨lines, isRun⟩ := exists_linesOf cs
    rw [isRun.eq_splitLines]
    exact isRun

end PathExpr.Text

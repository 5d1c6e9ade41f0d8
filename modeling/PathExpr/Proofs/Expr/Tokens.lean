import PathExpr.Proofs.Text.Marks
import PathExpr.Proofs.Text.Trim

/-!
# Tokens

Two operations take texts apart: an expression is cut at its first colon into a
tag and a rest, and a chain is split at a separator that ends its pieces.  Either
leaves out only what it is there to leave out: the colon and the blanks around
the tag and the rest, and the separators with one empty piece at the very end.  A
doubled separator keeps the empty piece inside it, also where a text ends so.
-/

namespace PathExpr.Expr

open PathExpr.Text

/-! ## The first colon -/

theorem exists_first_colon (cs : List Char) :
    (∀ c ∈ cs, isColon c = false) ∨
      ∃ before mark after, cs = before ++ mark :: after ∧ isColon mark = true ∧
        ∀ c ∈ before, isColon c = false := by
  cases found : cs.find? isColon with
  | none =>
      left
      simpa using found
  | some mark =>
      right
      obtain ⟨isMark, before, after, whole, clear⟩ := List.find?_eq_some_iff_append.mp found
      exact ⟨before, mark, after, whole, isMark, by simpa using clear⟩

theorem chunks_of_no_colon {s : String} (plain : ∀ c ∈ s.toList, isColon c = false) :
    chunks s = [] := by
  have none : colonOf? s = none := by
    simpa [colonOf?_eq] using plain
  simp [chunks, none, chunkAt]

theorem chunks_of_append {s : String} {before after : List Char} {mark : Char}
    (whole : s.toList = before ++ mark :: after) (isMark : isColon mark = true)
    (plain : ∀ c ∈ before, isColon c = false) :
    chunks s = [trim (String.ofList before), trim (String.ofList after)] := by
  have found : colonOf? s = some (String.singleton mark) := by
    rw [colonOf?_eq, List.find?_eq_some_iff_append.mpr
      ⟨isMark, before, after, whole, by simpa using plain⟩]
    rfl
  have absent : mark ∉ before := by
    intro member
    simp [plain mark member] at isMark
  have cutting : cut? (String.singleton mark) s =
      some (String.ofList before, String.ofList after) := by
    rw [cut?, String.toList_singleton, whole, cutChars?_append absent]
    rfl
  have filled : String.singleton mark ≠ "" := by
    simp
  rw [chunks, found]
  unfold chunkAt
  split
  · next none => cases none
  · next empty => exact (filled (Option.some.inj empty)).elim
  · next other _ same =>
    obtain rfl := Option.some.inj same
    rw [cutting]

/-- A text has no chunks exactly if no colon of either form is in it. -/
theorem chunks_eq_nil_iff {s : String} :
    chunks s = [] ↔ ∀ c ∈ s.toList, isColon c = false := by
  constructor
  · intro none
    rcases exists_first_colon s.toList with plain | ⟨before, mark, after, whole, isMark, plain⟩
    · exact plain
    · rw [chunks_of_append whole isMark plain] at none
      cases none
  · exact chunks_of_no_colon

/-- A text is its tag and its rest with one colon between them, and blanks around the three. -/
structure Parted (s tag rest : String) : Prop where
  tag_trimmed : trim tag = tag
  rest_trimmed : trim rest = rest
  tag_plain : ∀ c ∈ tag.toList, isColon c = false
  written : ∃ mark lead front back tail, isColon mark = true ∧ AllBlank lead ∧ AllBlank front ∧
    AllBlank back ∧ AllBlank tail ∧
    s.toList = lead ++ tag.toList ++ front ++ mark :: (back ++ rest.toList ++ tail)

theorem exists_chunks {s : String} (marked : chunks s ≠ []) :
    ∃ tag rest, chunks s = [tag, rest] ∧ Parted s tag rest := by
  rcases exists_first_colon s.toList with plain | ⟨before, mark, after, whole, isMark, plain⟩
  · exact absurd (chunks_of_no_colon plain) marked
  · refine ⟨_, _, chunks_of_append whole isMark plain, ?_⟩
    rcases exists_blanks before with ⟨lead, front, tagWhole, leadBlank, frontBlank⟩
    rcases exists_blanks after with ⟨back, tail, restWhole, backBlank, tailBlank⟩
    constructor
    · exact trim_eq_self_iff.mpr (by simpa using isTrimmed_trimChars before)
    · exact trim_eq_self_iff.mpr (by simpa using isTrimmed_trimChars after)
    · intro c member
      apply plain
      simpa using (infix_trim _).subset member
    · refine ⟨mark, lead, front, back, tail, isMark, leadBlank, frontBlank, backBlank, tailBlank,
        ?_⟩
      rw [toList_trim, toList_trim, String.toList_ofList, String.toList_ofList, ← tagWhole,
        ← restWhole]
      exact whole

/-! ## Pieces -/

theorem terminated_eq {separator : String} (nonempty : separator ≠ "") (s : String) :
    terminated separator s = .ok (splitTerminated separator s) := by
  by_cases empty : s = ""
  · simp [terminated, splitTerminated, empty]
  · simp [terminated, nonempty, empty]

/--
Taking texts apart loses nothing.  A separator that is not empty ends pieces in every text.
None of them has the separator in it, they are those of the full split but for an empty piece
at its end, and the separator between them makes the text again: exactly that text where no
piece was dropped, and the text without its last separator where one was.  An expression
without a colon of either form has no chunks; any other has two, which are trimmed, the first
of them without a colon, and the expression is these two with a colon between them and blanks
around.
-/
theorem tokens_lossless {separator : String} (nonempty : separator ≠ "") (s expr : String) :
    (∃ pieces, terminated separator s = .ok pieces ∧ EndedPieces separator s pieces) ∧
    (chunks expr = [] ↔ ∀ c ∈ expr.toList, isColon c = false) ∧
    (chunks expr = [] ∨ ∃ tag rest, chunks expr = [tag, rest] ∧ Parted expr tag rest) := by
  refine ⟨?_, chunks_eq_nil_iff, ?_⟩
  · exact ⟨_, terminated_eq nonempty s, endedPieces_splitTerminated nonempty⟩
  · by_cases plain : chunks expr = []
    · exact Or.inl plain
    · exact Or.inr (exists_chunks plain)

/--
A separator that overlaps itself: one text ends with it and loses no piece, the other does.
The first of two colons parts an expression, whatever its form.
-/
theorem tokens_lossless_of_overlap :
    terminated "aa" "xaaaaa" = .ok ["x", "", "a"] ∧ join "aa" ["x", "", "a"] = "xaaaaa" ∧
      terminated "aa" "xaaaa" = .ok ["x", ""] ∧ join "aa" ["x", ""] ++ "aa" = "xaaaa" ∧
      chunks " $dir ：a: b" = ["$dir", "a: b"] ∧ Parted " $dir ：a: b" "$dir" "a: b" := by
  have nonempty : "aa" ≠ "" := by
    decide
  have kept : terminated "aa" "xaaaaa" = .ok ["x", "", "a"] := by
    rfl
  have dropped : terminated "aa" "xaaaa" = .ok ["x", ""] := by
    rfl
  have parts : chunks " $dir ：a: b" = ["$dir", "a: b"] := by
    decide
  rcases tokens_lossless nonempty "xaaaaa" " $dir ：a: b" with ⟨⟨_, ran, whole⟩, -, none | parted⟩
  · rw [parts] at none
    cases none
  · rcases parted with ⟨_, _, same, parted⟩
    rcases (tokens_lossless nonempty "xaaaa" "").1 with ⟨_, ranAgain, ended⟩
    rw [kept] at ran
    rw [dropped] at ranAgain
    rw [parts] at same
    cases ran
    cases ranAgain
    cases same
    have joined := whole.joined_iff.mpr (Or.inr (by decide))
    have endedByOne := ended.ended_iff.mpr ⟨by decide, by decide⟩
    exact ⟨kept, joined, dropped, endedByOne, parts, parted⟩

end PathExpr.Expr

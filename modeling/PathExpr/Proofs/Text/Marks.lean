import PathExpr.Expr.Separator
import PathExpr.Proofs.Text.Pieces

/-!
# Marks of one character

Colons and question marks are single characters.  For a mark of one character,
cutting and splitting are the familiar operations on lists, the form of a mark
that separates in a text is the first one met there, and pieces without the
mark survive being joined with it.
-/

namespace PathExpr.Text

/-! ## Cutting -/

theorem cutChars?_of_not_mem {mark : Char} {cs : List Char} (absent : mark ∉ cs) :
    cutChars? [mark] cs = none := by
  induction cs with
  | nil => rfl
  | cons c rest ih =>
      rcases List.ne_and_not_mem_of_not_mem_cons absent with ⟨different, absent⟩
      simp [cutChars?, afterLead?, different, ih absent]

theorem cutChars?_append {mark : Char} {before : List Char} (absent : mark ∉ before)
    (after : List Char) :
    cutChars? [mark] (before ++ mark :: after) = some (before, after) := by
  induction before with
  | nil => simp [cutChars?, afterLead?]
  | cons c rest ih =>
      rcases List.ne_and_not_mem_of_not_mem_cons absent with ⟨different, absent⟩
      simp [cutChars?, afterLead?, different, ih absent]

theorem isSome_cutChars?_iff {mark : Char} {cs : List Char} :
    (cutChars? [mark] cs).isSome ↔ mark ∈ cs := by
  constructor
  · intro found
    by_cases present : mark ∈ cs
    · exact present
    · simp [cutChars?_of_not_mem present] at found
  · intro present
    rcases List.eq_append_cons_of_mem present with ⟨before, after, rfl, absent⟩
    simp [cutChars?_append absent]

theorem cutChars?_eq_some_iff {mark : Char} {cs before after : List Char} :
    cutChars? [mark] cs = some (before, after) ↔ cs = before ++ mark :: after ∧ mark ∉ before := by
  constructor
  · intro cut
    have present : mark ∈ cs := by
      rw [← isSome_cutChars?_iff, cut]
      rfl
    obtain ⟨front, rest, rfl, absent⟩ := List.eq_append_cons_of_mem present
    rw [cutChars?_append absent] at cut
    cases cut
    exact ⟨rfl, absent⟩
  · rintro ⟨rfl, absent⟩
    exact cutChars?_append absent after

/-! ## Positions -/

/-- The character stands at this position and nowhere before it. -/
structure FirstAt (c : Char) (cs : List Char) (i : Nat) : Prop where
  here : cs[i]? = some c
  before : ∀ j < i, cs[j]? ≠ some c

/-- The character stands at this position and nowhere behind it. -/
structure LastAt (c : Char) (cs : List Char) (i : Nat) : Prop where
  here : cs[i]? = some c
  behind : ∀ j, i < j → cs[j]? ≠ some c

theorem firstAt_append {c : Char} {before : List Char} (absent : c ∉ before) (after : List Char) :
    FirstAt c (before ++ c :: after) before.length where
  here := by simp
  before := by
    intro j inside same
    rw [List.getElem?_append_left inside] at same
    exact absent (List.mem_of_getElem? same)

theorem lastAt_append {c : Char} (before : List Char) {after : List Char} (absent : c ∉ after) :
    LastAt c (before ++ c :: after) before.length where
  here := by simp
  behind := by
    intro j past same
    rw [List.getElem?_append_right (by omega), List.getElem?_cons, if_neg (by omega)] at same
    exact absent (List.mem_of_getElem? same)

theorem FirstAt.unique {c : Char} {cs : List Char} {i j : Nat} (first : FirstAt c cs i)
    (other : FirstAt c cs j) : i = j := by
  rcases Nat.lt_trichotomy i j with less | same | more
  · exact (other.before i less first.here).elim
  · exact same
  · exact (first.before j more other.here).elim

theorem LastAt.unique {c : Char} {cs : List Char} {i j : Nat} (last : LastAt c cs i)
    (other : LastAt c cs j) : i = j := by
  rcases Nat.lt_trichotomy i j with less | same | more
  · exact (last.behind j less other.here).elim
  · exact same
  · exact (other.behind i more last.here).elim

theorem exists_last_of_mem {c : Char} {cs : List Char} (member : c ∈ cs) :
    ∃ before after, cs = before ++ c :: after ∧ c ∉ after := by
  obtain ⟨before, after, turned, absent⟩ :=
    List.eq_append_cons_of_mem (List.mem_reverse.mpr member)
  refine ⟨after.reverse, before.reverse, ?_, by simpa using absent⟩
  rw [← List.reverse_reverse cs, turned]
  simp

/-! ## Splitting -/

theorem splitChars_eq_splitOn (mark : Char) (cs : List Char) :
    splitChars [mark] 0 cs = cs.splitOn mark := by
  induction cs with
  | nil => rfl
  | cons c rest ih =>
      rw [List.splitOn_cons_eq_if_modifyHead]
      by_cases same : mark = c
      · subst same
        simp [splitChars, afterLead?, ih]
      · simp [splitChars, afterLead?, same, Ne.symm same, ih]

theorem split_singleton (mark : Char) (s : String) :
    split (String.singleton mark) s = (s.toList.splitOn mark).map String.ofList := by
  rw [split, String.toList_singleton, splitChars_eq_splitOn]

/-- No piece between the marks has the mark in it. -/
theorem not_mem_of_mem_split {mark : Char} {s piece : String}
    (member : piece ∈ split (String.singleton mark) s) : mark ∉ piece.toList := by
  have clear := not_infix_of_mem_split (by simp) member
  rwa [String.toList_singleton, List.singleton_infix_iff] at clear

/-- A text without the mark is its only piece. -/
theorem split_of_not_mem {mark : Char} {s : String} (absent : mark ∉ s.toList) :
    split (String.singleton mark) s = [s] := by
  simp [split_singleton, List.splitOn_eq_singleton absent]

/-- Pieces without the mark survive being joined with it. -/
theorem split_join {mark : Char} {pieces : List String} (nonempty : pieces ≠ [])
    (absent : ∀ piece ∈ pieces, mark ∉ piece.toList) :
    split (String.singleton mark) (join (String.singleton mark) pieces) = pieces := by
  rw [split_singleton, toList_join, String.toList_singleton, List.splitOn_intercalate]
  · simp [Function.comp_def]
  · simpa using absent
  · simpa using nonempty

/-- Pieces that are joined begin as the first of them does, if it is not empty. -/
theorem head?_join {separator first : String} (nonempty : first ≠ "") (rest : List String) :
    (join separator (first :: rest)).toList.head? = first.toList.head? := by
  obtain ⟨c, others, begins⟩ : ∃ c others, first.toList = c :: others :=
    List.exists_cons_of_ne_nil (by simpa using nonempty)
  cases rest with
  | nil => rfl
  | cons second others => simp [join, begins]

theorem join_ne_empty {separator first : String} (nonempty : first ≠ "") (rest : List String) :
    join separator (first :: rest) ≠ "" := by
  intro empty
  have begins : (join separator (first :: rest)).toList.head? = first.toList.head? :=
    head?_join nonempty rest
  rw [empty] at begins
  exact nonempty (by simpa using List.head?_eq_none_iff.mp begins.symm)

/-- Writing one character for another is done character by character. -/
theorem toList_replace (old new : Char) (s : String) :
    (replace (String.singleton old) (String.singleton new) s).toList =
      s.toList.map fun c => if c = old then new else c := by
  rw [replace, toList_join, split_singleton, String.toList_singleton, List.map_map]
  have bare : (String.toList ∘ String.ofList : List Char → List Char) = id := by
    funext chars
    simp
  rw [bare, List.map_id]
  induction s.toList with
  | nil => rfl
  | cons c rest ih =>
      rcases List.exists_cons_of_ne_nil (List.splitOn_ne_nil old rest) with ⟨head, tail, pieces⟩
      rw [List.splitOn_cons_eq_if_modifyHead, List.map_cons, ← ih, pieces]
      by_cases same : c = old
      · simp [same, List.intercalate_cons_cons]
      · cases tail with
        | nil => simp [same]
        | cons => simp [same, List.intercalate_cons_cons]

end PathExpr.Text

namespace PathExpr.Expr

open PathExpr.Text

/-! ## Detection -/

/-- Whether the character is a colon of either form. -/
def isColon (c : Char) : Bool :=
  c == ':' || c == '：'

/-- Whether the character is a question mark of either form. -/
def isQuestionMark (c : Char) : Bool :=
  c == '?' || c == '？'

/-- A mark that stands behind another one is found later, if at all. -/
theorem length_lt_of_indexOf? {first second : Char} {before after : List Char} {i : Nat}
    (different : first ≠ second) (absent : second ∉ before)
    (found : (cutChars? [second] (before ++ first :: after)).map (·.1.length) = some i) :
    before.length < i := by
  have present : second ∈ before ++ first :: after := by
    rcases Option.map_eq_some_iff.mp found with ⟨parts, cut, -⟩
    rw [← isSome_cutChars?_iff, cut]
    rfl
  have behind : second ∈ after := by
    simpa [absent, Ne.symm different] using present
  rcases List.eq_append_cons_of_mem behind with ⟨between, rest, rfl, clear⟩
  have clearBefore : second ∉ before ++ first :: between := by
    simp [absent, Ne.symm different, clear]
  have cut := cutChars?_append clearBefore rest
  rw [List.append_assoc, List.cons_append] at cut
  rw [cut, Option.map_some, Option.some.injEq] at found
  simp only [List.length_append, List.length_cons] at found
  omega

/-- The form that separates is the first one that is met. -/
theorem Separator.first?_eq_find? {half full : Char} (different : half ≠ full) (s : String) :
    Separator.first? ⟨String.singleton half, String.singleton full⟩ s =
      (s.toList.find? fun c => c == half || c == full).map String.singleton := by
  cases found : s.toList.find? fun c => c == half || c == full with
  | none =>
      have absent : ∀ c ∈ s.toList, ¬ (c = half ∨ c = full) := by
        simpa using found
      have noHalf : half ∉ s.toList := fun member => absent half member (Or.inl rfl)
      have noFull : full ∉ s.toList := fun member => absent full member (Or.inr rfl)
      simp [first?, indexOf?, cutChars?_of_not_mem noHalf, cutChars?_of_not_mem noFull]
  | some c =>
      rcases List.find?_eq_some_iff_append.mp found with ⟨isMark, before, after, whole, clear⟩
      have noHalf : half ∉ before := fun member => by simpa using clear half member
      have noFull : full ∉ before := fun member => by simpa using clear full member
      simp only [Bool.or_eq_true, beq_iff_eq] at isMark
      rcases isMark with rfl | rfl
      · have here := cutChars?_append noHalf after
        simp only [first?, indexOf?, String.toList_singleton, whole, here, Option.map_some]
        cases other : (cutChars? [full] (before ++ c :: after)).map fun parts => parts.1.length with
        | none => rfl
        | some i =>
            have later := length_lt_of_indexOf? different noFull other
            simp [later]
      · have here := cutChars?_append noFull after
        simp only [first?, indexOf?, String.toList_singleton, whole, here, Option.map_some]
        cases other : (cutChars? [half] (before ++ c :: after)).map fun parts => parts.1.length with
        | none => rfl
        | some i =>
            have later := length_lt_of_indexOf? (Ne.symm different) noHalf other
            simp [later, Nat.lt_asymm later]

theorem colon_eq : colon = ⟨String.singleton ':', String.singleton '：'⟩ := by
  decide

theorem questionMark_eq : questionMark = ⟨String.singleton '?', String.singleton '？'⟩ := by
  decide

theorem colonOf?_eq (s : String) :
    colonOf? s = (s.toList.find? isColon).map String.singleton := by
  rw [colonOf?, colon_eq]
  exact Separator.first?_eq_find? (by decide) s

theorem questionMarkOf?_eq (s : String) :
    questionMarkOf? s = (s.toList.find? isQuestionMark).map String.singleton := by
  rw [questionMarkOf?, questionMark_eq]
  exact Separator.first?_eq_find? (by decide) s

theorem questionMarkOf?_eq_none_iff {s : String} :
    questionMarkOf? s = none ↔ ∀ c ∈ s.toList, isQuestionMark c = false := by
  simp [questionMarkOf?_eq]

/-- A separating question mark, with the text before it free of question marks. -/
theorem questionMarkOf?_eq_some_iff {s separator : String} :
    questionMarkOf? s = some separator ↔
      ∃ before mark after, s.toList = before ++ mark :: after ∧
        separator = String.singleton mark ∧ isQuestionMark mark = true ∧
        ∀ c ∈ before, isQuestionMark c = false := by
  rw [questionMarkOf?_eq, Option.map_eq_some_iff]
  constructor
  · rintro ⟨mark, found, rfl⟩
    rcases List.find?_eq_some_iff_append.mp found with ⟨isMark, before, after, whole, clear⟩
    exact ⟨before, mark, after, whole, rfl, isMark, by simpa using clear⟩
  · rintro ⟨before, mark, after, whole, rfl, isMark, clear⟩
    refine ⟨mark, List.find?_eq_some_iff_append.mpr ⟨isMark, before, after, whole, ?_⟩, rfl⟩
    simpa using clear

end PathExpr.Expr

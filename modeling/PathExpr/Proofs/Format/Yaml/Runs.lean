import Mathlib.Data.List.Chain
import PathExpr.Format.Yaml.Leaf

/-!
# The stretches of a text

A text is the stretches of its spaces, of its line ends and of its words.  Where
no space stands next to a line end, every other stretch is a word.
-/

namespace PathExpr.Format.Yaml

namespace Run

/-- The characters of a stretch. -/
def chars : Run → List Char
  | spaces count => blanks count
  | breaks cs => cs
  | word cs => cs

/-- Whether the stretch is a word. -/
def isWord : Run → Bool
  | word _ => true
  | _ => false

/-- A stretch has characters, and they are of its kind. -/
def Proper : Run → Prop
  | spaces count => 0 < count
  | breaks cs => cs ≠ [] ∧ ∀ c ∈ cs, isWrittenBreak c = true
  | word cs => cs ≠ [] ∧ ∀ c ∈ cs, c ≠ ' ' ∧ isWrittenBreak c = false

/-- The stretch with each single quote doubled. -/
def quoted : Run → Run
  | word cs => word (doubleQuotes cs)
  | run => run

@[simp]
theorem quoted_spaces (count : Nat) : (spaces count).quoted = spaces count :=
  rfl

@[simp]
theorem quoted_breaks (cs : List Char) : (breaks cs).quoted = breaks cs :=
  rfl

@[simp]
theorem quoted_word (cs : List Char) : (word cs).quoted = word (doubleQuotes cs) :=
  rfl

/-- The stretch of one character. -/
def single (c : Char) : Run :=
  if c = ' ' then spaces 1 else if isWrittenBreak c then breaks [c] else word [c]

/-- The stretch with one more character in front, where that is of its kind. -/
def extended? (c : Char) : Run → Option Run
  | spaces count => if c = ' ' then some (spaces (count + 1)) else none
  | breaks cs => if isWrittenBreak c then some (breaks (c :: cs)) else none
  | word cs => if c = ' ' ∨ isWrittenBreak c = true then none else some (word (c :: cs))

theorem isWord_single (c : Char) : (single c).isWord = !(c == ' ' || isWrittenBreak c) := by
  unfold single
  split
  · next space => simp [space, isWord]
  · next space =>
    split
    · next ends => simp [ends, isWord]
    · next ends => simp [space, ends, isWord]

theorem chars_single (c : Char) : (single c).chars = [c] := by
  unfold single
  split
  · next space => rw [space]; rfl
  · split <;> rfl

theorem proper_single (c : Char) : (single c).Proper := by
  unfold single
  split
  · exact Nat.one_pos
  · next space =>
    split
    · next ends => exact ⟨List.cons_ne_nil c [], by simpa using ends⟩
    · next ends => exact ⟨List.cons_ne_nil c [], by simpa [space] using ends⟩

/-- What one more character in front changes. -/
theorem extended?_eq_some {c : Char} {run longer : Run} (grown : run.extended? c = some longer) :
    longer.chars = c :: run.chars ∧ longer.isWord = run.isWord ∧
      (run.Proper → longer.Proper) := by
  cases run with
  | spaces count =>
      simp only [extended?, Option.ite_none_right_eq_some, Option.some.injEq] at grown
      obtain ⟨rfl, rfl⟩ := grown
      exact ⟨rfl, rfl, fun _ => Nat.succ_pos count⟩
  | breaks cs =>
      simp only [extended?, Option.ite_none_right_eq_some, Option.some.injEq] at grown
      obtain ⟨ends, rfl⟩ := grown
      refine ⟨rfl, rfl, ?_⟩
      intro proper
      exact ⟨List.cons_ne_nil c cs, List.forall_mem_cons.mpr ⟨ends, proper.2⟩⟩
  | word cs =>
      simp only [extended?, Option.ite_none_left_eq_some, Option.some.injEq, not_or] at grown
      obtain ⟨ink, rfl⟩ := grown
      have visible : c ≠ ' ' ∧ isWrittenBreak c = false := by
        simpa using ink
      refine ⟨rfl, rfl, ?_⟩
      intro proper
      exact ⟨List.cons_ne_nil c cs, List.forall_mem_cons.mpr ⟨visible, proper.2⟩⟩

end Run

theorem runsOf_cons (c : Char) (cs : List Char) :
    runsOf (c :: cs) =
      match runsOf cs with
      | [] => [.single c]
      | run :: runs =>
        match run.extended? c with
        | some longer => longer :: runs
        | none => .single c :: run :: runs := by
  rw [runsOf]
  split
  · next space =>
    subst space
    rcases runsOf cs with _ | ⟨_ | _ | _, runs⟩ <;> rfl
  · next space =>
    split
    · next ends =>
      rcases runsOf cs with _ | ⟨_ | _ | _, runs⟩ <;>
        simp only [Run.single, Run.extended?, space, ends, if_true, if_false, or_true]
    · next ends =>
      rcases runsOf cs with _ | ⟨_ | _ | _, runs⟩ <;>
        simp only [Run.single, Run.extended?, space, ends, if_false, or_self, Bool.false_eq_true]

/--
Putting a character in front either lengthens the first stretch or begins a new
one.  So what holds of no stretches, and stays true in both cases, holds of the
stretches of every text.
-/
theorem runsOf_induction {motive : List Char → List Run → Prop} (nil : motive [] [])
    (extend : ∀ c cs run longer runs, runsOf cs = run :: runs → run.extended? c = some longer →
      motive cs (run :: runs) → motive (c :: cs) (longer :: runs))
    (begins : ∀ c cs runs, runsOf cs = runs → (∀ run ∈ runs.head?, run.extended? c = none) →
      motive cs runs → motive (c :: cs) (.single c :: runs)) (cs : List Char) :
    motive cs (runsOf cs) := by
  induction cs with
  | nil => exact nil
  | cons c cs ih =>
      rw [runsOf_cons]
      cases known : runsOf cs with
      | nil => exact begins c cs [] known (fun run head => by cases head) (known ▸ ih)
      | cons run runs =>
          cases more : run.extended? c with
          | some longer =>
              simp only [more]
              exact extend c cs run longer runs known more (known ▸ ih)
          | none =>
              simp only [more]
              refine begins c cs (run :: runs) known (fun head is => ?_) (known ▸ ih)
              rw [← Option.some.inj is, more]

/-- The stretches of a text are the text. -/
theorem flatMap_chars_runsOf (cs : List Char) : (runsOf cs).flatMap Run.chars = cs := by
  induction cs using runsOf_induction with
  | nil => rfl
  | extend c cs run longer runs _ more ih =>
      rw [List.flatMap_cons] at ih
      rw [List.flatMap_cons, (Run.extended?_eq_some more).1, List.cons_append, ih]
  | begins c cs runs _ _ ih => rw [List.flatMap_cons, Run.chars_single, ih]; rfl

/-- No stretch is empty or has characters of another kind. -/
theorem proper_of_mem_runsOf {cs : List Char} : ∀ run ∈ runsOf cs, run.Proper := by
  induction cs using runsOf_induction with
  | nil => simp
  | extend c cs run longer runs _ more ih =>
      obtain ⟨first, others⟩ := List.forall_mem_cons.mp ih
      exact List.forall_mem_cons.mpr ⟨(Run.extended?_eq_some more).2.2 first, others⟩
  | begins c cs runs _ _ ih => exact List.forall_mem_cons.mpr ⟨Run.proper_single c, ih⟩

/-- A character that begins a new stretch begins or ends a word. -/
theorem isWord_single_of_extended? {c : Char} {run : Run} (cs : List Char) (proper : run.Proper)
    (ended : run.extended? c = none) (apart : hasSpaceAtBreak (c :: (run.chars ++ cs)) = false) :
    (Run.single c).isWord = !run.isWord := by
  rw [Run.isWord_single]
  cases run with
  | spaces count =>
      obtain ⟨count, rfl⟩ := Nat.exists_eq_add_of_lt proper
      simp only [Run.extended?, ite_eq_right_iff, reduceCtorEq, imp_false] at ended
      have noBreak : isWrittenBreak c = false := by
        rw [Run.chars, blanks, List.replicate_succ, List.cons_append, hasSpaceAtBreak] at apart
        simp only [Bool.or_eq_false_iff, Bool.and_eq_false_iff] at apart
        simpa using apart.1.2
      simp [ended, noBreak, Run.isWord]
  | breaks others =>
      obtain ⟨nonempty, all⟩ := proper
      obtain ⟨d, others, rfl⟩ := List.exists_cons_of_ne_nil nonempty
      simp only [Run.extended?, ite_eq_right_iff, reduceCtorEq, imp_false] at ended
      have noSpace : c ≠ ' ' := by
        rintro rfl
        rw [Run.chars, List.cons_append, hasSpaceAtBreak, all d List.mem_cons_self] at apart
        cases apart
      simp [ended, noSpace, Run.isWord]
  | word others =>
      simp only [Run.extended?, ite_eq_left_iff, reduceCtorEq, imp_false, not_not] at ended
      rcases ended with rfl | ends
      · rfl
      · simp [ends, Run.isWord]

theorem hasSpaceAtBreak_tail {c : Char} {cs : List Char}
    (apart : hasSpaceAtBreak (c :: cs) = false) : hasSpaceAtBreak cs = false := by
  cases cs with
  | nil => rfl
  | cons d cs =>
      rw [hasSpaceAtBreak, Bool.or_eq_false_iff] at apart
      exact apart.2

/-- Each stretch has characters of its kind, and every other stretch is a word. -/
structure WellSpaced (runs : List Run) : Prop where
  proper : ∀ run ∈ runs, run.Proper
  alternates : runs.IsChain fun run next => run.isWord = !next.isWord

theorem WellSpaced.tail {run : Run} {runs : List Run} (spaced : WellSpaced (run :: runs)) :
    WellSpaced runs :=
  ⟨(List.forall_mem_cons.mp spaced.proper).2, (List.isChain_cons.mp spaced.alternates).2⟩

/-- Without spaces at line ends, no two stretches that are no words stand together. -/
theorem wellSpaced_runsOf {cs : List Char} (apart : hasSpaceAtBreak cs = false) :
    WellSpaced (runsOf cs) := by
  refine ⟨proper_of_mem_runsOf, ?_⟩
  induction cs using runsOf_induction with
  | nil => exact List.isChain_nil
  | extend c cs run longer runs _ more ih =>
      obtain ⟨first, others⟩ := List.isChain_cons.mp (ih (hasSpaceAtBreak_tail apart))
      rw [List.isChain_cons, (Run.extended?_eq_some more).2.1]
      exact ⟨first, others⟩
  | begins c cs runs known ended ih =>
      refine List.isChain_cons.mpr ⟨fun run head => ?_, ih (hasSpaceAtBreak_tail apart)⟩
      obtain ⟨others, rfl⟩ := List.head?_eq_some_iff.mp head
      refine isWord_single_of_extended? (others.flatMap Run.chars) ?_ (ended run head) ?_
      · exact proper_of_mem_runsOf run (known ▸ List.mem_cons_self)
      · rw [← List.flatMap_cons, ← known, flatMap_chars_runsOf]
        exact apart

/-! ## Doubled quotes -/

theorem doubleQuotes_cons (c : Char) (cs : List Char) :
    doubleQuotes (c :: cs) = (if c = '\'' then ['\'', '\''] else [c]) ++ doubleQuotes cs :=
  rfl

namespace Run

theorem extended?_quoted {c : Char} (other : c ≠ '\'') (run : Run) :
    run.quoted.extended? c = (run.extended? c).map quoted := by
  cases run with
  | spaces count => simp only [quoted, extended?]; split <;> rfl
  | breaks cs => simp only [quoted, extended?]; split <;> rfl
  | word cs =>
      simp only [quoted, extended?]
      split
      · rfl
      · rw [Option.map_some, quoted, doubleQuotes_cons, if_neg other]
        rfl

theorem quoted_single {c : Char} (other : c ≠ '\'') : (single c).quoted = single c := by
  unfold single
  split
  · rfl
  · split
    · rfl
    · rw [quoted, doubleQuotes_cons, if_neg other]
      rfl

end Run

/-- Doubling quotes makes words longer and leaves the other stretches as they are. -/
theorem runsOf_doubleQuotes (cs : List Char) :
    runsOf (doubleQuotes cs) = (runsOf cs).map Run.quoted := by
  induction cs with
  | nil => rfl
  | cons c cs ih =>
      rw [doubleQuotes_cons]
      split
      · next quote =>
        subst quote
        rw [List.cons_append, List.singleton_append, runsOf_cons, runsOf_cons, ih, runsOf_cons]
        rcases runsOf cs with _ | ⟨_ | _ | _, runs⟩ <;> rfl
      · next other =>
        rw [List.singleton_append, runsOf_cons, ih, runsOf_cons]
        cases runsOf cs with
        | nil => rw [List.map_nil, List.map_singleton, Run.quoted_single other]
        | cons run runs =>
            simp only [List.map_cons, Run.extended?_quoted other]
            cases run.extended? c with
            | some longer => rfl
            | none => simp only [Option.map_none, List.map_cons, Run.quoted_single other]

end PathExpr.Format.Yaml

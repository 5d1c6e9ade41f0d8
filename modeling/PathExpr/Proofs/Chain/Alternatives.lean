import PathExpr.Proofs.Chain.Plain
import PathExpr.Proofs.Text.Trim

/-!
# The alternatives of a remainder

What a remainder says is either a lone alternative or a chain of trimmed
pieces.  Which of the two it is, and what the pieces are, can be told from the
text before it is trimmed: blanks at the ends of a text and blanks beside a
question mark that separates are not part of any piece, and a last piece goes
away when there are only blanks in it.
-/

namespace PathExpr.Expr

open PathExpr.Text

/-! ## Blanks and separators -/

theorem isColon_of_isBlank {c : Char} (blank : isBlank c = true) : isColon c = false := by
  cases colon : isColon c with
  | false => rfl
  | true =>
      simp only [isColon, Bool.or_eq_true, beq_iff_eq] at colon
      rcases colon with rfl | rfl <;> simp [isBlank] at blank

theorem isQuestionMark_of_isBlank {c : Char} (blank : isBlank c = true) :
    isQuestionMark c = false := by
  cases mark : isQuestionMark c with
  | false => rfl
  | true =>
      simp only [isQuestionMark, Bool.or_eq_true, beq_iff_eq] at mark
      rcases mark with rfl | rfl <;> simp [isBlank] at blank

theorem questionMark_not_mem {mark : Char} (isMark : isQuestionMark mark = true)
    {blanks : List Char} (blank : AllBlank blanks) : mark ∉ blanks := by
  intro member
  simp [isQuestionMark_of_isBlank (blank mark member)] at isMark

/-! ## Pieces -/

/-- The last piece of a list goes on with what is put behind the list. -/
theorem exists_last_piece (mark : Char) (cs : List Char) :
    ∃ init last, last <:+ cs ∧
      ∀ rest, mark ∉ rest → (cs ++ rest).splitOn mark = init ++ [last ++ rest] := by
  induction cs with
  | nil =>
      refine ⟨[], [], List.suffix_rfl, fun rest absent => ?_⟩
      simp [List.splitOn_eq_singleton absent]
  | cons c cs ih =>
      obtain ⟨init, last, suffix, pieces⟩ := ih
      by_cases same : c = mark
      · refine ⟨[] :: init, last, suffix.trans (List.suffix_cons c cs), fun rest absent => ?_⟩
        simp [List.splitOn_cons_eq_if_modifyHead, same, pieces rest absent]
      · cases init with
        | nil =>
            -- There is no mark yet, so that the only piece is the whole list.
            have whole : last = cs := by
              have joined := congrArg (List.intercalate [mark]) (pieces [] List.not_mem_nil)
              simpa using joined.symm
            subst whole
            refine ⟨[], c :: last, List.suffix_rfl, fun rest absent => ?_⟩
            simp [List.splitOn_cons_eq_if_modifyHead, same, pieces rest absent]
        | cons head init =>
            refine ⟨(c :: head) :: init, last, suffix.trans (List.suffix_cons c cs),
              fun rest absent => ?_⟩
            simp [List.splitOn_cons_eq_if_modifyHead, same, pieces rest absent]

/-- Blanks in front of a list are not part of a piece. -/
theorem map_trimChars_splitOn_append_left {mark : Char} {blanks : List Char}
    (blank : AllBlank blanks) (absent : mark ∉ blanks) (cs : List Char) :
    ((blanks ++ cs).splitOn mark).map trimChars = (cs.splitOn mark).map trimChars := by
  induction blanks with
  | nil => rfl
  | cons c rest ih =>
      rcases List.ne_and_not_mem_of_not_mem_cons absent with ⟨different, absent⟩
      rcases List.forall_mem_cons.mp blank with ⟨first, blank⟩
      rw [← ih blank absent, List.cons_append, List.splitOn_cons_eq_if_modifyHead,
        if_neg (by simpa using Ne.symm different)]
      cases (rest ++ cs).splitOn mark with
      | nil => rfl
      | cons piece pieces =>
          have skipped : trimChars ([c] ++ piece) = trimChars piece :=
            trimChars_append_left (by simpa [AllBlank] using first) piece
          simpa using skipped

/-- Blanks behind a list are not part of a piece. -/
theorem map_trimChars_splitOn_append_right {mark : Char} {blanks : List Char}
    (blank : AllBlank blanks) (absent : mark ∉ blanks) (cs : List Char) :
    ((cs ++ blanks).splitOn mark).map trimChars = (cs.splitOn mark).map trimChars := by
  obtain ⟨init, last, -, pieces⟩ := exists_last_piece mark cs
  have bare := pieces [] List.not_mem_nil
  rw [List.append_nil, List.append_nil] at bare
  rw [pieces blanks absent, bare]
  simp [trimChars_append_right last blank]

/-- Writing another mark for the mark that splits a list leaves its pieces as they are. -/
theorem splitOn_map {mark mark' : Char} (isMark' : isQuestionMark mark' = true) {cs : List Char}
    (only : ∀ c ∈ cs, isQuestionMark c = true → c = mark) :
    (cs.map fun c => if c = mark then mark' else c).splitOn mark' = cs.splitOn mark := by
  induction cs with
  | nil => rfl
  | cons c rest ih =>
      rcases List.forall_mem_cons.mp only with ⟨first, only⟩
      rw [List.map_cons, List.splitOn_cons_eq_if_modifyHead, List.splitOn_cons_eq_if_modifyHead,
        ih only]
      by_cases same : c = mark
      · simp [same]
      · have other : c ≠ mark' := fun eq => same (first (eq ▸ isMark'))
        simp [same, other]

/-- The trimmed pieces of a chain; a blank piece at the end is no piece. -/
def alternatives (mark : Char) (cs : List Char) : List (List Char) :=
  let pieces := (cs.splitOn mark).map trimChars
  if pieces.getLast? = some [] then pieces.dropLast else pieces

theorem alternatives_congr {mark mark' : Char} {cs cs' : List Char}
    (same : (cs.splitOn mark).map trimChars = (cs'.splitOn mark').map trimChars) :
    alternatives mark cs = alternatives mark' cs' := by
  rw [alternatives, alternatives, same]

/-- The pieces of a trimmed text are the alternatives of the text it was before. -/
theorem trimmedPieces_trim {mark : Char} (isMark : isQuestionMark mark = true) (cs : List Char) :
    trimmedPieces (String.singleton mark) (trim (String.ofList cs)) =
      (alternatives mark cs).map String.ofList := by
  obtain ⟨lead, tail, whole, leadBlank, tailBlank⟩ := exists_blanks cs
  have core : ((trimChars cs).splitOn mark).map trimChars = (cs.splitOn mark).map trimChars := by
    conv_rhs => rw [whole]
    rw [map_trimChars_splitOn_append_right tailBlank (questionMark_not_mem isMark tailBlank),
      map_trimChars_splitOn_append_left leadBlank (questionMark_not_mem isMark leadBlank)]
  rw [← alternatives_congr core, trim, String.toList_ofList]
  obtain ⟨init, last, suffix, pieces⟩ := exists_last_piece mark (trimChars cs)
  have bare := pieces [] List.not_mem_nil
  rw [List.append_nil, List.append_nil] at bare
  -- The core does not end in a blank, so that its last piece is empty as soon as it is blank.
  have blankLast : trimChars last = [] ↔ last = [] := by
    constructor
    · intro blank
      by_contra filled
      obtain ⟨front, rejoined⟩ := suffix
      have final : last.getLast filled ∈ (trimChars cs).getLast? := by
        rw [← rejoined, List.getLast?_append_of_ne_nil _ filled,
          List.getLast?_eq_some_getLast filled, Option.mem_some_iff]
      have trimmed := (isTrimmed_trimChars cs).last _ final
      simp [allBlank_of_trimChars blank _ (List.getLast_mem filled)] at trimmed
    · rintro rfl
      rfl
  by_cases empty : trimChars cs = []
  · simp [empty, trimmedPieces, splitTerminated, alternatives]
  · have filled : String.ofList (trimChars cs) ≠ "" := by
      simpa using empty
    rw [trimmedPieces, splitTerminated_of_ne_empty filled, split_singleton, String.toList_ofList,
      alternatives, bare]
    by_cases ended : last = []
    · simp [ended, trim, Function.comp_def]
    · simp [ended, mt blankLast.mp ended, trim, Function.comp_def]

/-! ## What a remainder says -/

/-- What stands behind the tag of an expression, free of its concrete syntax. -/
inductive Reading where
  /-- A lone alternative. -/
  | alone (text : String)
  /-- The trimmed pieces of a chain. -/
  | chain (pieces : List String)
  deriving DecidableEq

/-- Reads a remainder that may still have blanks at its ends. -/
def Reading.of (cs : List Char) : Reading :=
  match cs.find? isQuestionMark with
  | none => .alone (trim (String.ofList cs))
  | some mark => .chain ((alternatives mark cs).map String.ofList)

namespace Reading

theorem find?_surround {p : Char → Bool} (blankless : ∀ c, isBlank c = true → p c = false)
    {lead tail : List Char} (leadBlank : AllBlank lead) (tailBlank : AllBlank tail)
    (cs : List Char) : (lead ++ cs ++ tail).find? p = cs.find? p := by
  have skip : ∀ blanks, AllBlank blanks → blanks.find? p = none := by
    intro blanks blank
    rw [List.find?_eq_none]
    intro c member
    simp [blankless c (blank c member)]
  simp [List.find?_append, skip lead leadBlank, skip tail tailBlank]

/-- The blanks at the ends of a remainder do not count. -/
theorem of_surround {lead tail : List Char} (leadBlank : AllBlank lead)
    (tailBlank : AllBlank tail) (cs : List Char) :
    Reading.of (lead ++ cs ++ tail) = Reading.of cs := by
  unfold Reading.of
  rw [find?_surround (fun _ => isQuestionMark_of_isBlank) leadBlank tailBlank]
  split
  · simp [trim, trimChars_append_right _ tailBlank, trimChars_append_left leadBlank]
  · next mark found =>
    have isMark := List.find?_some found
    refine congrArg (fun pieces => Reading.chain (pieces.map String.ofList))
      (alternatives_congr ?_)
    rw [map_trimChars_splitOn_append_right tailBlank (questionMark_not_mem isMark tailBlank),
      map_trimChars_splitOn_append_left leadBlank (questionMark_not_mem isMark leadBlank)]

/-- Blanks beside a question mark that separates do not count. -/
theorem of_beside {front back left right left' right' : List Char} {mark : Char}
    (first : (front ++ left ++ mark :: (right ++ back)).find? isQuestionMark = some mark)
    (leftBlank : AllBlank left) (rightBlank : AllBlank right)
    (leftBlank' : AllBlank left') (rightBlank' : AllBlank right') :
    Reading.of (front ++ left' ++ mark :: (right' ++ back)) =
      Reading.of (front ++ left ++ mark :: (right ++ back)) := by
  have isMark := List.find?_some first
  have skip : ∀ blanks, AllBlank blanks → blanks.find? isQuestionMark = none := by
    intro blanks blank
    rw [List.find?_eq_none]
    intro c member
    simp [isQuestionMark_of_isBlank (blank c member)]
  have first' : (front ++ left' ++ mark :: (right' ++ back)).find? isQuestionMark =
      some mark := by
    rw [← first]
    simp [List.find?_append, skip left leftBlank, skip left' leftBlank', isMark]
  unfold Reading.of
  rw [first, first']
  refine congrArg (fun pieces => Reading.chain (pieces.map String.ofList))
    (alternatives_congr ?_)
  simp only [List.splitOn_append_cons_self, List.map_append]
  rw [map_trimChars_splitOn_append_right leftBlank (questionMark_not_mem isMark leftBlank),
    map_trimChars_splitOn_append_right leftBlank' (questionMark_not_mem isMark leftBlank'),
    map_trimChars_splitOn_append_left rightBlank (questionMark_not_mem isMark rightBlank),
    map_trimChars_splitOn_append_left rightBlank' (questionMark_not_mem isMark rightBlank')]

/-- The form of the question marks does not count, as long as there is only one. -/
theorem of_map {mark mark' : Char} (isMark : isQuestionMark mark = true)
    (isMark' : isQuestionMark mark' = true) {cs : List Char}
    (only : ∀ c ∈ cs, isQuestionMark c = true → c = mark) :
    Reading.of (cs.map fun c => if c = mark then mark' else c) = Reading.of cs := by
  have recognized : (isQuestionMark ∘ fun c => if c = mark then mark' else c) =
      isQuestionMark := by
    funext c
    by_cases same : c = mark
    · simp [same, isMark, isMark']
    · simp [same]
  have found : (cs.map fun c => if c = mark then mark' else c).find? isQuestionMark =
      (cs.find? isQuestionMark).map fun c => if c = mark then mark' else c := by
    rw [List.find?_map, recognized]
  unfold Reading.of
  rw [found]
  cases first : cs.find? isQuestionMark with
  | none =>
      have unmarked := List.find?_eq_none.mp first
      have unchanged : (cs.map fun c => if c = mark then mark' else c) = cs := by
        rw [List.map_congr_left (g := id), List.map_id]
        intro c member
        refine if_neg ?_
        rintro rfl
        exact unmarked _ member isMark
      simp [unchanged]
  | some c =>
      have same := only c (List.mem_of_find?_eq_some first) (List.find?_some first)
      subst same
      simp only [Option.map_some, if_true]
      refine congrArg (fun pieces => Reading.chain (pieces.map String.ofList))
        (alternatives_congr (congrArg _ ?_))
      exact splitOn_map isMark' only

end Reading

end PathExpr.Expr

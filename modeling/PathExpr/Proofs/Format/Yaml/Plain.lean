import PathExpr.Proofs.Format.Yaml.Styles

/-!
# Plain texts of a written document

A text that is written without quotes is words with spaces between them.  None of
the words ends with a colon and none but the first can begin with a hash, so the
text is read to its end, and no fold is taken for more than the space it stands for.
-/

namespace PathExpr.Format.Yaml

/-- The word is read as one run of a plain scalar. -/
structure PlainWord (cs : List Char) : Prop where
  nonempty : cs ≠ []
  ink : ∀ c ∈ cs, IsInk c
  noColon : cs.getLast? ≠ some ':'

/-- Words with spaces between them; only the first may begin with a hash. -/
inductive PlainRuns : List Run → Prop
  | last {cs : List Char} (word : PlainWord cs) : PlainRuns [.word cs]
  | more {cs : List Char} {count : Nat} {runs : List Run} (word : PlainWord cs)
    (positive : 0 < count) (noHash : (runs.flatMap Run.chars).head? ≠ some '#')
    (others : PlainRuns runs) :
    PlainRuns (.word cs :: .spaces count :: runs)

/-- Behind a plain scalar an item begins, or the document has ended. -/
inductive NextItem : List Char → Prop
  | done : NextItem []
  | item (cs : List Char) : NextItem ('-' :: ' ' :: cs)

/-! ## Reading -/

theorem plainRun_of_gap {cells : List Cell} (gap : isBlankOrEnd (peek cells) = true) :
    plainRun false cells = ([], cells) := by
  cases cells with
  | nil => rfl
  | cons cell cells => rw [plainRun, plainGoesOn, if_pos gap, if_neg Bool.false_ne_true]

theorem plainRun_eq {cs rest : List Char} (ink : ∀ c ∈ cs, isBlankOrEnd c = false)
    (noColon : cs.getLast? ≠ some ':') {p : Place}
    (stops : isBlankOrEnd (peek ((p.after cs).cells rest)) = true) :
    plainRun false (p.cells (cs ++ rest)) = (cs, (p.after cs).cells rest) := by
  induction cs generalizing p with
  | nil => exact plainRun_of_gap stops
  | cons c cs ih =>
      obtain ⟨first, others⟩ := List.forall_mem_cons.mp ink
      -- A colon goes on because it is not the last character of the word.
      have goesOn : plainGoesOn false (p.cells (c :: (cs ++ rest))) = true := by
        simp only [plainGoesOn, Place.peek_cells, Place.peekAt_one_cells, first, Bool.false_eq_true,
          if_false, Bool.false_and, Bool.or_false, Bool.not_false, ite_eq_right_iff]
        intro colon
        cases cs with
        | nil => exact absurd (congrArg some (beq_iff_eq.mp colon)) noColon
        | cons d cs =>
            rw [List.cons_append, Place.peek_cells, others d List.mem_cons_self, Bool.not_false]
      have behind : cs.getLast? ≠ some ':' := by
        intro last
        apply noColon
        rw [List.getLast?_cons, last, Option.getD_some]
      rw [Place.cells_cons] at goesOn
      rw [List.cons_append, Place.cells_cons, plainRun, if_pos goesOn, ih others behind stops]
      rfl

theorem takeChars_blanks {rest : List Char} (inked : Inked rest) (count : Nat) (p : Place)
    (after : List Char) :
    takeChars (· == ' ') (p.cells (blanks count ++ (rest ++ after))) = blanks count ∧
      dropChars (· == ' ') (p.cells (blanks count ++ (rest ++ after))) =
        (p.after (blanks count)).cells (rest ++ after) := by
  obtain ⟨c, cs, rfl, ink⟩ := inked
  have all : ∀ d ∈ blanks count, (d == ' ') = true := fun d member =>
    beq_iff_eq.mpr (List.eq_of_mem_replicate member)
  have stops : (peek ((p.after (blanks count)).cells (c :: cs ++ after)) == ' ') = false := by
    rw [List.cons_append, Place.peek_cells, beq_eq_false_iff_ne]
    rintro rfl
    cases ink
  exact ⟨Place.takeChars_cells all stops, Place.dropChars_cells all stops⟩

theorem plainGap_spaces {rest : List Char} (inked : Inked rest) (count : Nat) (p : Place)
    (after : List Char) :
    plainGap (p.cells (blanks count ++ (rest ++ after))) =
      ⟨blanks count, false, (p.after (blanks count)).cells (rest ++ after)⟩ := by
  obtain ⟨taken, dropped⟩ := takeChars_blanks inked count p after
  have noBreak : isBreak (peek ((p.after (blanks count)).cells (rest ++ after))) = false := by
    obtain ⟨c, cs, rfl, ink⟩ := inked
    rw [List.cons_append, Place.peek_cells]
    exact (isBlankOrEnd_eq_false.mp ink).2.1
  simp only [plainGap, taken, dropped, noBreak]
  rfl

theorem plainBreaks_of_ink {cells : List Cell}
    (noBreak : isBreak (peek (dropChars (· == ' ') cells)) = false) (fuel : Nat) :
    plainBreaks (fuel + 1) cells = ([], false, dropChars (· == ' ') cells) := by
  rw [plainBreaks]
  split
  · next cell rest dropped =>
    rw [dropped] at noBreak
    have here : isBreak cell.char = false := noBreak
    rw [if_neg (Bool.eq_false_iff.mp here), dropped]
  · next dropped => rw [dropped]

/-- A line end becomes a space; no mark of a document stands behind it. -/
theorem plainGap_break {cs : List Char} {p : Place}
    (noMarker : startsDocumentMarker ((p.next '\n').cells cs) = false)
    (noBreak : isBreak (peek (dropChars (· == ' ') ((p.next '\n').cells cs))) = false) :
    plainGap (p.cells ('\n' :: cs)) =
      ⟨[' '], true, dropChars (· == ' ') ((p.next '\n').cells cs)⟩ := by
  have stops : (peek (p.cells ('\n' :: cs)) == ' ') = false := by
    rw [Place.peek_cells]
    rfl
  have dropped : dropChars (· == ' ') (p.cells ('\n' :: cs)) = p.cells ('\n' :: cs) :=
    Place.dropChars_of_stop stops
  have ends : isBreak '\n' = true := rfl
  simp only [plainGap, dropped, Place.peek_cells, Place.drop_one_cells, ends, if_true, noMarker,
    Bool.false_eq_true, if_false, plainBreaks_of_ink noBreak]
  rfl

theorem plainGap_fold {rest : List Char} (inked : Inked rest) (indent : Nat) (p : Place)
    (after : List Char) :
    plainGap (p.cells ('\n' :: (blanks (indent + 1) ++ (rest ++ after)))) =
      ⟨[' '], true, ((p.next '\n').after (blanks (indent + 1))).cells (rest ++ after)⟩ := by
  obtain ⟨-, dropped⟩ := takeChars_blanks inked (indent + 1) (p.next '\n') after
  rw [plainGap_break, dropped]
  · exact startsDocumentMarker_of_ne (by decide) (by decide) _ _
  · obtain ⟨c, cs, rfl, ink⟩ := inked
    rw [dropped, List.cons_append, Place.peek_cells]
    exact (isBlankOrEnd_eq_false.mp ink).2.1

theorem plainGap_end {next : List Char} (item : NextItem next) (p : Place) :
    plainGap (p.cells ('\n' :: next)) = ⟨[' '], true, (p.next '\n').cells next⟩ := by
  have stops : (peek ((p.next '\n').cells next) == ' ') = false ∧
      isBreak (peek ((p.next '\n').cells next)) = false := by
    cases item with
    | done => exact ⟨rfl, rfl⟩
    | item cs =>
        rw [Place.peek_cells]
        exact ⟨rfl, rfl⟩
  have noMarker : startsDocumentMarker ((p.next '\n').cells next) = false := by
    cases item with
    | done => rfl
    | item cs => simp [startsDocumentMarker, startsMarker]
  have dropped : dropChars (· == ' ') ((p.next '\n').cells next) = (p.next '\n').cells next :=
    Place.dropChars_of_stop stops.1
  rw [plainGap_break noMarker (by rw [dropped, stops.2]), dropped]

theorem column_after_blanks (p : Place) (count : Nat) :
    (p.after (blanks count)).column = p.column + count := by
  induction count generalizing p with
  | zero => rfl
  | succ count ih =>
      rw [blanks, List.replicate_succ, Place.after_cons, ← blanks, ih, Place.column_next_of_space]
      omega

/-- Written words begin with the first character of the first of them. -/
theorem PlainRuns.starts {runs : List Run} (plain : PlainRuns runs) (indent column : Nat)
    (isFirst : Bool) :
    ∃ c written text, foldRuns true indent column isFirst runs = c :: written ∧
      runs.flatMap Run.chars = c :: text ∧ IsInk c := by
  have word : ∀ {cs : List Char} (others : List Run), PlainWord cs →
      ∃ c written text, foldRuns true indent column isFirst (.word cs :: others) = c :: written ∧
        (Run.word cs :: others).flatMap Run.chars = c :: text ∧ IsInk c := by
    intro cs others word
    obtain ⟨c, cs, rfl⟩ := List.exists_cons_of_ne_nil word.nonempty
    exact ⟨c, _, _, by rw [foldRuns]; rfl, rfl, word.ink c List.mem_cons_self⟩
  cases plain with
  | last here => exact word [] here
  | more here => exact word _ here

/-- A word of a plain scalar, and what the gap behind it makes of the scalar. -/
theorem plainScalar_word {cs rest : List Char} (word : PlainWord cs) (noHash : cs.head? ≠ some '#')
    {p : Place} (stops : isBlankOrEnd (peek ((p.after cs).cells rest)) = true) (fuel : Nat)
    (gap : List Char) (ended : Bool) :
    plainScalar false 1 (fuel + 1) gap ended (p.cells (cs ++ rest)) =
      let next := plainGap ((p.after cs).cells rest)
      if next.text.isEmpty || peek next.rest == '#' || (columnOf next.rest : Int) < 1 then
        ⟨gap ++ cs, next.ended, next.rest⟩
      else
        let more := plainScalar false 1 fuel next.text next.ended next.rest
        ⟨gap ++ cs ++ more.text, more.ended, more.rest⟩ := by
  have run := plainRun_eq (fun c member => (word.ink c member).visible) word.noColon stops
  obtain ⟨c, cs, rfl⟩ := List.exists_cons_of_ne_nil word.nonempty
  have lead : (peek (p.cells (c :: cs ++ rest)) == '#') = false := by
    rw [List.cons_append, Place.peek_cells, beq_eq_false_iff_ne]
    rintro rfl
    exact noHash rfl
  rw [plainScalar, if_neg (Bool.eq_false_iff.mp lead), run]
  rfl

/-- The spaces in front of a word are read as such, folded or not, and the word is indented. -/
theorem plainGap_foldRuns {runs : List Run} (plain : PlainRuns runs) {count : Nat}
    (positive : 0 < count) (column : Nat) (isFirst : Bool) (p : Place) (after : List Char) :
    ∃ written column' gapEnded,
      foldRuns true itemIndent column isFirst (.spaces count :: runs) =
        written ++ foldRuns true itemIndent column' false runs ∧
      isBlankOrEnd (peek (p.cells (written ++
        (foldRuns true itemIndent column' false runs ++ after)))) = true ∧
      plainGap (p.cells (written ++ (foldRuns true itemIndent column' false runs ++ after))) =
        ⟨blanks count, gapEnded, (p.after written).cells
          (foldRuns true itemIndent column' false runs ++ after)⟩ ∧
      0 < (p.after written).column := by
  have inked : ∀ column, Inked (foldRuns true itemIndent column false runs) := by
    intro column
    obtain ⟨c, written, text, shape, -, ink⟩ := plain.starts itemIndent column false
    exact ⟨c, written, shape, ink.visible⟩
  rw [foldRuns]
  split
  · next folds =>
    simp only [Bool.and_eq_true, beq_iff_eq] at folds
    obtain ⟨⟨⟨⟨rfl, -⟩, -⟩, -⟩, -⟩ := folds
    refine ⟨'\n' :: blanks itemIndent, itemIndent, true, rfl, ?_, ?_, ?_⟩
    · rw [List.cons_append, Place.peek_cells]
      rfl
    · exact plainGap_fold (inked _) 1 p after
    · rw [Place.after_cons, column_after_blanks]
      exact Nat.lt_of_lt_of_le (by decide) (Nat.le_add_left itemIndent _)
  · refine ⟨blanks count, column + count, false, rfl, ?_, ?_, ?_⟩
    · obtain ⟨count, rfl⟩ := Nat.exists_eq_add_of_lt positive
      rw [blanks, List.replicate_succ, List.cons_append, Place.peek_cells]
      rfl
    · exact plainGap_spaces (inked _) count p after
    · rw [column_after_blanks]
      omega

/-- A second character that is no space is the second one of the first word. -/
theorem PlainRuns.goesOn {runs : List Run} (plain : PlainRuns runs) {c d : Char} {text : List Char}
    (shape : runs.flatMap Run.chars = c :: d :: text) (noSpace : d ≠ ' ') (indent column : Nat)
    (isFirst : Bool) :
    ∃ written, foldRuns true indent column isFirst runs = c :: d :: written := by
  have word : ∀ {cs : List Char} (others : List Run), PlainWord cs →
      (∀ e ∈ (others.flatMap Run.chars).head?, e = ' ') →
      (Run.word cs :: others).flatMap Run.chars = c :: d :: text →
      ∃ written, foldRuns true indent column isFirst (.word cs :: others) = c :: d :: written := by
    intro cs others word gap shape
    rw [foldRuns]
    rw [List.flatMap_cons, Run.chars] at shape
    obtain ⟨e, cs, rfl⟩ := List.exists_cons_of_ne_nil word.nonempty
    obtain ⟨rfl, behind⟩ := List.cons.inj shape
    cases cs with
    | nil =>
        have head : others.flatMap Run.chars = d :: text := behind
        exact absurd (gap d (by rw [head]; rfl)) noSpace
    | cons f cs =>
        obtain ⟨rfl, -⟩ := List.cons.inj behind
        exact ⟨_, rfl⟩
  cases plain with
  | last here => exact word [] here (fun e head => by cases head) shape
  | @more cs count runs here positive _ _ =>
      refine word _ here (fun e head => ?_) shape
      obtain ⟨count, rfl⟩ := Nat.exists_eq_add_of_lt positive
      exact (Option.some.inj head).symm

theorem PlainRuns.length_le {runs : List Run} (plain : PlainRuns runs) (indent column : Nat)
    (isFirst : Bool) : runs.length ≤ (foldRuns true indent column isFirst runs).length := by
  induction plain generalizing column isFirst with
  | last word =>
      rw [foldRuns, foldRuns, List.append_nil]
      exact List.length_pos_iff.mpr word.nonempty
  | @more cs count runs word positive _ _ ih =>
      have here := List.length_pos_iff.mpr word.nonempty
      rw [foldRuns, foldRuns]
      split
      · have others := ih indent false
        simp only [List.length_append, List.length_cons]
        omega
      · have others := ih (column + cs.length + count) false
        simp only [List.length_append, List.length_cons, blanks, List.length_replicate]
        omega

/-- The words of a plain scalar are read up to the line end behind the last of them. -/
theorem plainScalar_foldRuns {runs : List Run} (plain : PlainRuns runs) {next : List Char}
    (item : NextItem next) (column : Nat) (isFirst : Bool) (gap : List Char) (ended : Bool)
    (p : Place) {fuel : Nat} (enough : runs.length ≤ fuel)
    (noHash : (runs.flatMap Run.chars).head? ≠ some '#') :
    plainScalar false 1 fuel gap ended
        (p.cells (foldRuns true itemIndent column isFirst runs ++ '\n' :: next)) =
      ⟨gap ++ runs.flatMap Run.chars, true,
        ((p.after (foldRuns true itemIndent column isFirst runs)).next '\n').cells next⟩ := by
  induction plain generalizing column isFirst gap ended p fuel with
  | @last cs word =>
      obtain ⟨fuel, rfl⟩ := Nat.exists_eq_add_of_lt enough
      have lead : cs.head? ≠ some '#' := by
        simpa [Run.chars] using noHash
      have ends : isBreak '\n' = true := rfl
      rw [foldRuns, foldRuns, List.append_nil,
        plainScalar_word word lead (by rw [Place.peek_cells]; rfl)]
      simp only [plainGap_end item, Place.columnOf_cells, Place.column_next_of_break ends]
      simp [Run.chars]
  | @more cs count runs word positive noHashBehind others ih =>
      obtain ⟨fuel, rfl⟩ := Nat.exists_eq_add_of_lt (Nat.lt_of_le_of_lt (Nat.zero_le _) enough)
      have lead : cs.head? ≠ some '#' := by
        obtain ⟨c, cs, rfl⟩ := List.exists_cons_of_ne_nil word.nonempty
        simpa [Run.chars] using noHash
      rw [foldRuns]
      obtain ⟨written, column', gapEnded, shape, gapFollows, read, indented⟩ :=
        plainGap_foldRuns others positive (column + cs.length) false (p.after cs) ('\n' :: next)
      have noHashNext : (peek (((p.after cs).after written).cells
          (foldRuns true itemIndent column' false runs ++ '\n' :: next)) == '#') = false := by
        obtain ⟨c, tail, text, shape, content, -⟩ := others.starts itemIndent column' false
        rw [shape, List.cons_append, Place.peek_cells, beq_eq_false_iff_ne]
        rintro rfl
        exact noHashBehind (by rw [content]; rfl)
      have short : decide (((((p.after cs).after written).column : Nat) : Int) < 1) = false :=
        decide_eq_false (by omega)
      have nonempty : (blanks count).isEmpty = false := by
        obtain ⟨count, rfl⟩ := Nat.exists_eq_add_of_lt positive
        rfl
      rw [shape, List.append_assoc, List.append_assoc, plainScalar_word word lead gapFollows]
      simp only [read, noHashNext, Place.columnOf_cells, short, nonempty, Bool.or_self,
        Bool.false_eq_true, if_false]
      rw [ih column' false (blanks count) gapEnded _ (by simp at enough; omega) noHashBehind]
      simp [Run.chars, Place.after_append]

/-! ## Which texts are such words -/

/-- No mark inside the characters would end a plain text. -/
theorem hasInnerIndicator_tail {previous c : Char} {cs : List Char}
    (calm : hasInnerIndicator previous (c :: cs) = false) :
    (c = ':' → gapFollows cs = false) ∧ (c = '#' → isGap previous = false) ∧
      hasInnerIndicator c cs = false := by
  simp only [hasInnerIndicator, Bool.or_eq_false_iff, Bool.and_eq_false_iff,
    beq_eq_false_iff_ne] at calm
  obtain ⟨⟨colon, hash⟩, rest⟩ := calm
  refine ⟨?_, ?_, rest⟩
  · intro isColon
    exact colon.resolve_left fun other => other isColon
  · intro isHash
    exact hash.resolve_left fun other => other isHash

/-- Behind a stretch the characters are still calm, and a gap follows no colon. -/
theorem hasInnerIndicator_append {previous : Char} {cs rest : List Char}
    (calm : hasInnerIndicator previous (cs ++ rest) = false) :
    hasInnerIndicator (cs.getLast?.getD previous) rest = false ∧
      (gapFollows rest = true → cs.getLast? ≠ some ':') := by
  induction cs generalizing previous with
  | nil => exact ⟨calm, fun _ last => by cases last⟩
  | cons c cs ih =>
      obtain ⟨colon, -, others⟩ := hasInnerIndicator_tail calm
      obtain ⟨behind, noColon⟩ := ih others
      rw [List.getLast?_cons]
      refine ⟨behind, fun gap last => ?_⟩
      cases cs with
      | nil =>
          have same : c = ':' := Option.some.inj last
          cases gap.symm.trans (colon same)
      | cons d cs =>
          rw [List.getLast?_cons, Option.getD_some] at last
          rw [List.getLast?_cons] at noColon
          exact noColon gap last

/-- Words with spaces between them, from which the marks of other things are excluded. -/
theorem plainRuns_of : ∀ {runs : List Run}, WellSpaced runs →
    (∃ cs others, runs = .word cs :: others) →
    (∀ c ∈ runs.flatMap Run.chars, isClear c = true ∧ isWrittenBreak c = false) →
    (runs.flatMap Run.chars).getLast? ≠ some ' ' →
    ∀ previous, hasInnerIndicator previous (runs.flatMap Run.chars) = false → PlainRuns runs
  | [], _, ⟨_, _, shape⟩, _, _, _, _ => by cases shape
  | .spaces _ :: _, _, ⟨_, _, shape⟩, _, _, _, _ => by cases shape
  | .breaks _ :: _, _, ⟨_, _, shape⟩, _, _, _, _ => by cases shape
  | .word cs :: others, spaced, _, clear, last, previous, calm => by
      obtain ⟨nonempty, all⟩ := spaced.proper _ List.mem_cons_self
      have ink : ∀ c ∈ cs, IsInk c := fun c member =>
        ⟨(clear c (List.mem_append_left _ member)).1, (all c member).1, (all c member).2⟩
      rw [List.flatMap_cons] at calm
      obtain ⟨behind, noColon⟩ := hasInnerIndicator_append calm
      cases others with
      | nil => exact .last ⟨nonempty, ink, noColon rfl⟩
      | cons run runs =>
          cases run with
          | word _ => cases (List.isChain_cons.mp spaced.alternates).1 _ rfl
          | breaks ds =>
              -- There is no line end in the text.
              obtain ⟨someBreak, breaks⟩ :=
                spaced.proper _ (List.mem_cons_of_mem _ List.mem_cons_self)
              obtain ⟨d, ds, rfl⟩ := List.exists_cons_of_ne_nil someBreak
              have noBreak := (clear d (by simp [Run.chars])).2
              cases noBreak.symm.trans (breaks d List.mem_cons_self)
          | spaces count =>
              have positive : 0 < count :=
                spaced.proper _ (List.mem_cons_of_mem _ List.mem_cons_self)
              obtain ⟨count, rfl⟩ := Nat.exists_eq_add_of_lt positive
              have follows := (List.isChain_cons.mp spaced.tail.alternates).1
              have calmBehind : hasInnerIndicator ' ' (runs.flatMap Run.chars) = false := by
                have lastSpace : (Run.spaces (0 + count + 1)).chars.getLast? = some ' ' := by
                  simp [Run.chars, blanks, List.getLast?_replicate]
                rw [List.flatMap_cons] at behind
                have calm := (hasInnerIndicator_append behind).1
                rwa [lastSpace, Option.getD_some] at calm
              have starts : ∃ cs others, runs = .word cs :: others := by
                cases runs with
                | nil =>
                    refine absurd ?_ last
                    simp [Run.chars, blanks, List.getLast?_append, List.getLast?_replicate]
                | cons run others =>
                    cases run with
                    | word cs => exact ⟨cs, others, rfl⟩
                    | spaces _ => cases follows _ rfl
                    | breaks _ => cases follows _ rfl
              refine .more ⟨nonempty, ink, noColon rfl⟩ positive ?_
                (plainRuns_of spaced.tail.tail starts ?_ ?_ ' ' calmBehind)
              · intro hash
                obtain ⟨text, shape⟩ := List.head?_eq_some_iff.mp hash
                rw [shape] at calmBehind
                cases (hasInnerIndicator_tail calmBehind).2.1 rfl
              · intro c member
                exact clear c (List.mem_append_right _ (List.mem_append_right _ member))
              · intro space
                apply last
                rw [List.flatMap_cons, List.flatMap_cons, List.getLast?_append,
                  List.getLast?_append, space]
                rfl

/-- What begins a plain text: no indicator, unless the text goes on right behind it. -/
structure PlainStart (c : Char) (rest : List Char) : Prop where
  ink : IsInk c
  noLead : leadIndicators.contains c = false
  goesOn : c = '-' ∨ c = '?' ∨ c = ':' → gapFollows rest = false

theorem eq_of_styleOf_plain {cs : List Char} (plain : styleOf cs = .plain) :
    Tag.ofPlain (String.ofList cs) = .str ∧ allowsPlain cs = true := by
  rw [styleOf] at plain
  split at plain
  · next both =>
    rw [Bool.and_eq_true, decide_eq_true_eq] at both
    exact both
  · split at plain <;> cases plain

/-- What characters a text without quotes has, and what it neither begins nor ends with. -/
structure IsPlain (cs : List Char) : Prop where
  clear : ∀ c ∈ cs, isClear c = true
  noBreak : ∀ c ∈ cs, isWrittenBreak c = false
  noLead : cs.head? ≠ some ' '
  noLast : cs.getLast? ≠ some ' '
  calm : hasIndicator cs = false

theorem isPlain_of_styleOf {cs : List Char} (plain : styleOf cs = .plain) : IsPlain cs := by
  obtain ⟨-, allows⟩ := eq_of_styleOf_plain plain
  simp only [allowsPlain, Bool.and_eq_true, List.all_eq_true, Bool.not_eq_true', bne_iff_ne,
    List.any_eq_false, Bool.not_eq_true] at allows
  obtain ⟨⟨⟨⟨clear, noBreak⟩, noLead⟩, noLast⟩, calm⟩ := allows
  exact ⟨clear, noBreak, noLead, noLast, calm⟩

theorem isBlankOrEnd_of_isGap {c : Char} (noGap : isGap c = false) : isBlankOrEnd c = false := by
  simp only [isGap, isWrittenBreak, Bool.or_eq_false_iff] at noGap
  simp [isBlankOrEnd, isSpaceOrEnd, isBreakOrEnd, endChar, noGap]

theorem allowsSingleQuotes_of_styleOf {cs : List Char} (single : styleOf cs = .single) :
    allowsSingleQuotes cs = true := by
  rw [styleOf] at single
  split at single
  · cases single
  · split at single
    · assumption
    · cases single

theorem allowsSingleQuotes_of_double {cs : List Char} (double : styleOf cs = .double) :
    allowsSingleQuotes cs = false := by
  rw [styleOf] at double
  split at double
  · cases double
  · split at double
    · cases double
    · next disallowed => exact Bool.eq_false_iff.mpr disallowed

theorem hasSpaceAtBreak_of_noBreak {cs : List Char} (noBreak : ∀ c ∈ cs, isWrittenBreak c = false) :
    hasSpaceAtBreak cs = false := by
  fun_induction hasSpaceAtBreak cs with
  | case1 a b rest ih =>
      obtain ⟨first, others⟩ := List.forall_mem_cons.mp noBreak
      rw [first, others b List.mem_cons_self, Bool.and_false, Bool.false_and, Bool.or_self,
        Bool.false_or, ih others]
  | case2 => rfl

theorem runsOf_starts {c : Char} (ink : IsInk c) (cs : List Char) :
    ∃ word others, runsOf (c :: cs) = .word word :: others := by
  have single : Run.single c = .word [c] := by
    rw [Run.single, if_neg ink.noSpace, if_neg (Bool.eq_false_iff.mp ink.noBreak)]
  rw [runsOf_cons, single]
  rcases runsOf cs with _ | ⟨count | breaks | word, others⟩
  · exact ⟨[c], [], rfl⟩
  · simp only [Run.extended?, ink.noSpace, if_false]
    exact ⟨[c], _, rfl⟩
  · simp only [Run.extended?, ink.noBreak, Bool.false_eq_true, if_false]
    exact ⟨[c], _, rfl⟩
  · simp only [Run.extended?, ink.noSpace, ink.noBreak, Bool.false_eq_true, or_self, if_false]
    exact ⟨c :: word, _, rfl⟩

theorem plainRuns_runsOf {cs : List Char} (plain : styleOf cs = .plain) :
    PlainRuns (runsOf cs) ∧ ∃ c rest, cs = c :: rest ∧ PlainStart c rest := by
  obtain ⟨tag, -⟩ := eq_of_styleOf_plain plain
  obtain ⟨clear, noBreak, noLead, noLast, calm⟩ := isPlain_of_styleOf plain
  cases cs with
  | nil => cases tag
  | cons c rest =>
      simp only [hasIndicator, Bool.or_eq_false_iff] at calm
      obtain ⟨⟨⟨-, lead⟩, mark⟩, inner⟩ := calm
      have ink : IsInk c :=
        ⟨clear c List.mem_cons_self, by simpa using noLead, noBreak c List.mem_cons_self⟩
      have goesOn : c = '-' ∨ c = '?' ∨ c = ':' → gapFollows rest = false := by
        rintro (rfl | rfl | rfl) <;> exact mark
      refine ⟨?_, c, rest, rfl, ink, lead, goesOn⟩
      refine plainRuns_of (wellSpaced_runsOf (hasSpaceAtBreak_of_noBreak noBreak))
        (runsOf_starts ink rest) ?_ ?_ 'x' ?_
      · rw [flatMap_chars_runsOf]
        exact fun d member => ⟨clear d member, noBreak d member⟩
      · rw [flatMap_chars_runsOf]
        exact noLast
      · rw [flatMap_chars_runsOf, hasInnerIndicator, inner, show isGap 'x' = false from rfl,
          Bool.and_false, Bool.or_false, Bool.or_false, Bool.and_eq_false_iff, beq_eq_false_iff_ne]
        by_cases colon : c = ':'
        · exact Or.inr (goesOn (Or.inr (Or.inr colon)))
        · exact Or.inl colon

/-- A text without quotes holds no line end but those of its folds. -/
theorem isSafe_of_mem_writePlain {cs : List Char} (plain : styleOf cs = .plain) (mayFold : Bool)
    (indent column : Nat) : ∀ c ∈ writePlain mayFold indent column cs, IsSafe c := by
  obtain ⟨clear, noBreak, -, -, -⟩ := isPlain_of_styleOf plain
  refine forall_mem_foldRuns ⟨rfl, by decide⟩ ⟨rfl, by decide⟩ ?_ mayFold indent column true
  intro run member c inside
  have source : c ∈ cs := by
    rw [← flatMap_chars_runsOf cs]
    exact List.mem_flatMap.mpr ⟨run, member, inside⟩
  refine ⟨clear c source, ?_⟩
  rintro rfl
  cases noBreak _ source

/-- However a text is written, it begins visibly and with no hash. -/
theorem writeText_starts (indent column : Nat) (cs : List Char) :
    ∃ c written, (writeText true indent column cs).map unifiedBreak = c :: written ∧
      isBlankOrEnd c = false ∧ c ≠ '#' := by
  unfold writeText
  cases style : styleOf cs with
  | single => exact ⟨'\'', _, rfl, rfl, by decide⟩
  | double => exact ⟨'"', _, rfl, rfl, by decide⟩
  | plain =>
      obtain ⟨plain, c, rest, rfl, begins⟩ := plainRuns_runsOf style
      obtain ⟨first, written, text, shape, content, ink⟩ := plain.starts indent column true
      obtain ⟨rfl, -⟩ := List.cons.inj ((flatMap_chars_runsOf (c :: rest)).symm.trans content)
      refine ⟨c, written.map unifiedBreak, ?_, ink.visible, ?_⟩
      · simp only [writePlain]
        rw [shape, List.map_cons, ink.unified]
      · rintro rfl
        cases begins.noLead

end PathExpr.Format.Yaml

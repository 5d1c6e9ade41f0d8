import PathExpr.Format.Yaml.ScalarText
import PathExpr.Proofs.Format.Yaml.Cells

/-!
# Reading between quotes

What a quoted scalar is read as, put together from its last character to its
first: each lemma puts one more part in front of a scalar whose reading is known.
-/

namespace PathExpr.Format.Yaml

open PathExpr.Number

theorem isBlankOrEnd_eq_false {c : Char} :
    isBlankOrEnd c = false ↔ isSpaceOrTab c = false ∧ isBreak c = false ∧ c ≠ endChar := by
  simp only [isBlankOrEnd, isSpaceOrEnd, isBreakOrEnd, isSpaceOrTab, Bool.or_eq_false_iff,
    beq_eq_false_iff_ne]
  constructor
  · rintro ⟨tab, space, noBreak, noEnd⟩
    exact ⟨⟨space, tab⟩, noBreak, noEnd⟩
  · rintro ⟨⟨space, tab⟩, noBreak, noEnd⟩
    exact ⟨tab, space, noBreak, noEnd⟩

/-- The characters start with one that is visible. -/
def Inked (cs : List Char) : Prop :=
  ∃ c rest, cs = c :: rest ∧ isBlankOrEnd c = false

/-! ## Gaps -/

theorem startsMarker_of_ne {mark c : Char} (other : c ≠ mark) (p : Place) (cs : List Char) :
    startsMarker mark (p.cells (c :: cs)) = false := by
  simp only [startsMarker, Place.peek_cells, beq_eq_false_iff_ne.mpr other, Bool.false_and]

theorem startsDocumentMarker_of_ne {c : Char} (dash : c ≠ '-') (dot : c ≠ '.') (p : Place)
    (cs : List Char) : startsDocumentMarker (p.cells (c :: cs)) = false := by
  rw [startsDocumentMarker, startsMarker_of_ne dash, startsMarker_of_ne dot, Bool.or_self]

theorem isSpaceOrTab_of_mem_replicate {count : Nat} {c : Char}
    (member : c ∈ List.replicate count ' ') : isSpaceOrTab c = true := by
  rw [List.eq_of_mem_replicate member]
  rfl

section Spaces

variable {rest : List Char} (count : Nat) (p : Place)

theorem takeChars_spaces (inked : Inked rest) (after : List Char) :
    takeChars isSpaceOrTab (p.cells (List.replicate count ' ' ++ (rest ++ after))) =
      List.replicate count ' ' := by
  obtain ⟨c, cs, rfl, ink⟩ := inked
  refine Place.takeChars_cells (fun c => isSpaceOrTab_of_mem_replicate) ?_
  rw [List.cons_append, Place.peek_cells]
  exact (isBlankOrEnd_eq_false.mp ink).1

theorem dropChars_spaces (inked : Inked rest) (after : List Char) :
    dropChars isSpaceOrTab (p.cells (List.replicate count ' ' ++ (rest ++ after))) =
      (p.after (List.replicate count ' ')).cells (rest ++ after) := by
  obtain ⟨c, cs, rfl, ink⟩ := inked
  refine Place.dropChars_cells (fun c => isSpaceOrTab_of_mem_replicate) ?_
  rw [List.cons_append, Place.peek_cells]
  exact (isBlankOrEnd_eq_false.mp ink).1

end Spaces

theorem isSpaceOrTab_of_isBreak {c : Char} (ends : isBreak c = true) : isSpaceOrTab c = false := by
  simp only [isBreak, Bool.or_eq_true, beq_iff_eq] at ends
  rcases ends with (rfl | rfl) | rfl <;> rfl

theorem dropChars_break {c : Char} (ends : isBreak c = true) (cs : List Char) (p : Place) :
    dropChars isSpaceOrTab (p.cells (c :: cs)) = p.cells (c :: cs) := by
  apply Place.dropChars_of_stop
  rw [Place.peek_cells, isSpaceOrTab_of_isBreak ends]

theorem ne_of_isBreak {c other : Char} (ends : isBreak c = true) (noEnd : isBreak other = false) :
    c ≠ other := by
  rintro rfl
  cases ends.symm.trans noEnd

/-- Line ends, none of whose lines is the mark of a document, and the blanks behind them. -/
theorem quotedBreaks_eq {breaks : List Char} (all : ∀ c ∈ breaks, isBreak c = true) (indent : Nat)
    {rest : List Char} (inked : Inked rest) (after : List Char) (p : Place) {fuel : Nat}
    (enough : breaks.length < fuel) :
    quotedBreaks fuel (p.cells (breaks ++ (List.replicate (indent + 1) ' ' ++ (rest ++ after)))) =
      .ok (breaks,
        (p.after (breaks ++ List.replicate (indent + 1) ' ')).cells (rest ++ after)) := by
  induction breaks generalizing p fuel with
  | nil =>
      obtain ⟨fuel, rfl⟩ := Nat.exists_eq_add_of_lt enough
      have marker : startsDocumentMarker
          (p.cells (List.replicate (indent + 1) ' ' ++ (rest ++ after))) = false :=
        startsDocumentMarker_of_ne (by decide) (by decide) p _
      rw [List.nil_append, quotedBreaks, marker, dropChars_spaces _ _ inked]
      obtain ⟨c, cs, rfl, ink⟩ := inked
      rw [List.cons_append, Place.cells_cons]
      simp only [Place.char_cell, (isBlankOrEnd_eq_false.mp ink).2.1, Bool.false_eq_true, if_false,
        List.nil_append, Place.cells_cons]
      rfl
  | cons first breaks ih =>
      obtain ⟨fuel, rfl⟩ := Nat.exists_eq_add_of_lt (Nat.lt_of_le_of_lt (Nat.zero_le _) enough)
      have ends := all first List.mem_cons_self
      have marker := startsDocumentMarker_of_ne (ne_of_isBreak ends (by decide))
        (ne_of_isBreak ends (by decide)) p
        (breaks ++ (List.replicate (indent + 1) ' ' ++ (rest ++ after)))
      rw [List.cons_append, Nat.zero_add, quotedBreaks, marker, dropChars_break ends,
        Place.cells_cons]
      simp only [Place.char_cell, ends, if_true]
      rw [ih (fun c member => all c (List.mem_cons_of_mem first member)) (p.next first)
        (by simpa using enough)]
      rfl

/-! ## Parts of a quoted scalar -/

theorem quotedText_gap (double : Bool) (fuel : Nat) {cells : List Cell}
    (gap : isBlankOrEnd (peek cells) = true) :
    quotedText double (fuel + 1) cells =
      let after := dropChars isSpaceOrTab cells
      if peek after == endChar then malformed
      else if isBreak (peek after) then do
        let (breaks, rest) ← quotedBreaks (after.length + 1) (after.drop 1)
        let (text, rest) ← quotedText double fuel rest
        return (foldBreaks (peek after) breaks ++ text, rest)
      else do
        let (text, rest) ← quotedText double fuel after
        return (takeChars isSpaceOrTab cells ++ text, rest) := by
  have other : ∀ c, isBlankOrEnd c = false → (peek cells == c) = false := by
    intro c ink
    refine beq_eq_false_iff_ne.mpr fun same => ?_
    rw [same, ink] at gap
    cases gap
  simp only [quotedText, other '\'' (by decide), other '"' (by decide), other '\\' (by decide),
    Bool.and_false, Bool.false_eq_true, if_false, gap, if_true]

theorem quotedText_backslash (fuel : Nat) (p : Place) (cs : List Char) :
    quotedText true (fuel + 1) (p.cells ('\\' :: cs)) =
      let rest := (p.next '\\').cells cs
      let more := fun (front : List Char) (rest : List Cell) => do
        let (text, rest) ← quotedText true fuel rest
        return (front ++ text, rest)
      match escapeChar? (peek rest), escapeDigits? (peek rest) with
      | some replaced, _ => more [replaced] (rest.drop 1)
      | none, some width => do
        let digits := ((rest.drop 1).take width).map Cell.char
        if digits.length = width && digits.all (isDigitIn 16) then
          let decoded ← numberedChar (ofDigits 16 digits)
          more [decoded] (rest.drop (1 + width))
        else malformed
      | none, none =>
        if isBreak (peek rest) then do
          let (breaks, rest) ← quotedBreaks (rest.length + 1) (rest.drop 1)
          more breaks rest
        else malformed := by
  simp only [quotedText, Place.peek_cells, Place.drop_one_cells]
  rfl

/--
A quoted scalar that is so written behind its opening quote, its closing quote
included, is read as the text when the rest stands behind it.
-/
def QuotedAs (double : Bool) (written text rest : List Char) : Prop :=
  ∀ (p : Place) (fuel : Nat), written.length ≤ fuel →
    quotedText double fuel (p.cells (written ++ rest)) = .ok (text, (p.after written).cells rest)

/-- The character stands for itself between single quotes, or between double quotes. -/
structure IsQuotable (double : Bool) (c : Char) : Prop where
  ink : isBlankOrEnd c = false
  quote : c ≠ if double then '"' else '\''
  backslash : double = true → c ≠ '\\'

namespace QuotedAs

variable {double : Bool} {written text rest : List Char}

theorem of_cons {c : Char}
    (step : ∀ (p : Place) (fuel : Nat), written.length ≤ fuel →
      quotedText double (fuel + 1) (p.cells (c :: (written ++ rest))) =
        .ok (text, ((p.next c).after written).cells rest)) :
    QuotedAs double (c :: written) text rest := by
  intro p fuel enough
  cases fuel with
  | zero => cases enough
  | succ fuel => exact step p fuel (Nat.le_of_succ_le_succ enough)

theorem close_double (rest : List Char) : QuotedAs true ['"'] [] rest := by
  refine of_cons fun p fuel _ => ?_
  simp only [quotedText, List.nil_append, Place.peek_cells, Place.drop_one_cells]
  rfl

theorem close_single {c : Char} (other : c ≠ '\'') (rest : List Char) :
    QuotedAs false ['\''] [] (c :: rest) := by
  refine of_cons fun p fuel _ => ?_
  simp only [quotedText, List.nil_append, Place.peek_cells, Place.drop_one_cells, beq_iff_eq, other,
    if_false]
  rfl

/-- A character that stands for itself. -/
theorem char (known : QuotedAs double written text rest) {c : Char}
    (quotable : IsQuotable double c) : QuotedAs double (c :: written) (c :: text) rest := by
  refine of_cons fun p fuel enough => ?_
  have quote : (!double && c == '\'') = false ∧ (double && c == '"') = false ∧
      (double && c == '\\') = false := by
    have other := quotable.quote
    have backslash := quotable.backslash
    cases double <;> simp_all
  simp only [quotedText, Place.peek_cells, Place.drop_one_cells, quotable.ink, quote,
    known (p.next c) fuel enough]
  rfl

/-- A single quote is written twice between single quotes. -/
theorem quotes (known : QuotedAs false written text rest) :
    QuotedAs false ('\'' :: '\'' :: written) ('\'' :: text) rest := by
  refine of_cons fun p fuel enough => ?_
  have more := known ((p.next '\'').next '\'') fuel (Nat.le_of_succ_le enough)
  simp only [quotedText, List.cons_append, Place.peek_cells, Place.drop_one_cells, more]
  rfl

/-- A backslash and a letter. -/
theorem escape (known : QuotedAs true written text rest) {letter c : Char}
    (means : escapeChar? letter = some c) :
    QuotedAs true ('\\' :: letter :: written) (c :: text) rest := by
  refine of_cons fun p fuel enough => ?_
  have more := known ((p.next '\\').next letter) fuel (Nat.le_of_succ_le enough)
  rw [List.cons_append, quotedText_backslash]
  simp only [Place.peek_cells, Place.drop_one_cells, means, more]
  rfl

/-- A backslash, a letter and the digits of a number. -/
theorem numbered (known : QuotedAs true written text rest) {letter c : Char} {digits : List Char}
    (noShort : escapeChar? letter = none) (width : escapeDigits? letter = some digits.length)
    (all : digits.all (isDigitIn 16) = true) (means : numberedChar (ofDigits 16 digits) = .ok c) :
    QuotedAs true ('\\' :: letter :: (digits ++ written)) (c :: text) rest := by
  refine of_cons fun p fuel enough => ?_
  have more := known (((p.next '\\').next letter).after digits) fuel
    (by rw [List.length_cons, List.length_append] at enough; omega)
  have behind : ((p.next '\\').cells (letter :: (digits ++ (written ++ rest)))).drop
      (1 + digits.length) =
        (((p.next '\\').next letter).after digits).cells (written ++ rest) := by
    rw [← List.drop_drop, Place.drop_one_cells, Place.drop_cells]
  rw [List.cons_append, List.append_assoc, quotedText_backslash]
  simp only [Place.peek_cells, Place.drop_one_cells, noShort, width, Place.take_cells, all, behind,
    decide_true, Bool.and_self, if_true, means]
  simp only [bind, Except.bind, more, Place.after_cons, Place.after_append]
  rfl

/-- Spaces in front of what is visible. -/
theorem spaces (known : QuotedAs double written text rest) (inked : Inked written) (count : Nat) :
    QuotedAs double (List.replicate count ' ' ++ written) (List.replicate count ' ' ++ text)
      rest := by
  cases count with
  | zero => exact known
  | succ count =>
      rw [List.replicate_succ, List.cons_append, List.cons_append]
      refine of_cons fun p fuel enough => ?_
      have more := known ((p.next ' ').after (List.replicate count ' ')) fuel
        (by rw [List.length_append] at enough; omega)
      have taken := takeChars_spaces (count + 1) p inked rest
      have dropped := dropChars_spaces (count + 1) p inked rest
      rw [List.replicate_succ, List.cons_append] at taken dropped
      rw [Place.after_cons] at dropped
      have next : peek (((p.next ' ').after (List.replicate count ' ')).cells (written ++ rest)) ≠
          endChar ∧
          isBreak (peek (((p.next ' ').after (List.replicate count ' ')).cells (written ++ rest))) =
            false := by
        obtain ⟨c, cs, rfl, ink⟩ := inked
        obtain ⟨-, noBreak, noEnd⟩ := isBlankOrEnd_eq_false.mp ink
        rw [List.cons_append, Place.peek_cells]
        exact ⟨noEnd, noBreak⟩
      rw [List.append_assoc, quotedText_gap _ _ (by rw [Place.peek_cells]; rfl)]
      simp only [taken, dropped, beq_eq_false_iff_ne.mpr next.1, next.2, more, Place.after_append]
      rfl

/-- Line ends, folded, with the blanks in front of the next line. -/
theorem breaks (known : QuotedAs double written text rest) {first : Char} {others : List Char}
    (ends : isBreak first = true) (all : ∀ c ∈ others, isBreak c = true) (indent : Nat)
    (inked : Inked written) :
    QuotedAs double (first :: (others ++ (List.replicate (indent + 1) ' ' ++ written)))
      (foldBreaks first others ++ text) rest := by
  refine of_cons fun p fuel enough => ?_
  have more := known ((p.next first).after (others ++ List.replicate (indent + 1) ' ')) fuel
    (by simp at enough; omega)
  have noEnd : (first == endChar) = false :=
    beq_eq_false_iff_ne.mpr (ne_of_isBreak ends (by decide))
  rw [quotedText_gap]
  · simp only [List.append_assoc, dropChars_break ends, Place.peek_cells, noEnd, ends, if_true,
      Place.drop_one_cells]
    rw [quotedBreaks_eq all indent inked rest]
    · simp only [bind, Except.bind, more, Bool.false_eq_true, if_false]
      simp only [Place.after_append]
      rfl
    · simp
      omega
  · simp [isBlankOrEnd, isSpaceOrEnd, isBreakOrEnd, ends]

/-- A line end that a backslash takes back. -/
theorem escapedBreak (known : QuotedAs true written text rest) (indent : Nat)
    (inked : Inked written) :
    QuotedAs true ('\\' :: '\n' :: (List.replicate (indent + 1) ' ' ++ written)) text rest := by
  refine of_cons fun p fuel enough => ?_
  have more := known (((p.next '\\').next '\n').after (List.replicate (indent + 1) ' ')) fuel
    (by simp at enough; omega)
  have noShort : escapeChar? '\n' = none := rfl
  have noNumber : escapeDigits? '\n' = none := rfl
  have ends : isBreak '\n' = true := rfl
  have line := quotedBreaks_eq (List.forall_mem_nil _) indent inked rest ((p.next '\\').next '\n')
    (Nat.succ_pos ((p.next '\\').cells
      ('\n' :: (List.replicate (indent + 1) ' ' ++ (written ++ rest)))).length)
  rw [List.nil_append] at line
  rw [List.cons_append, List.append_assoc, quotedText_backslash]
  simp only [Place.peek_cells, Place.drop_one_cells, noShort, noNumber, ends, if_true, line]
  simp only [bind, Except.bind, List.nil_append, more, Place.after_append, Place.after_cons]
  rfl

end QuotedAs

end PathExpr.Format.Yaml

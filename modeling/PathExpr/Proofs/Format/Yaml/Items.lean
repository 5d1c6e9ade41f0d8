import PathExpr.Format.Yaml.Scan
import PathExpr.Proofs.Format.Yaml.Plain

/-!
# Scanning the items of a list

Between two items of a list the scan stands at the beginning of a line, in the
block that the first dash has opened and with no candidate for a key that must
become one.  A dash and a text behind it lead from one such place to the next.
-/

namespace PathExpr.Format.Yaml

/-- What a text in a document is read as. -/
def readBack (cs : List Char) : List Char :=
  match styleOf cs with
  | .single => reflowed cs
  | _ => cs

/-- The token of a text in a document. -/
def textToken (cs : List Char) : Token :=
  .scalar (String.ofList (readBack cs)) (styleOf cs == .plain)

namespace Scan

/-- No candidate must become a key. -/
def NoneRequired (candidates : List KeyCandidate) : Prop :=
  ∀ key ∈ candidates, key.required = false

theorem NoneRequired.filter {candidates : List KeyCandidate} (none : NoneRequired candidates)
    (test : KeyCandidate → Bool) : NoneRequired (candidates.filter test) :=
  fun key member => none key (List.mem_of_mem_filter member)

theorem NoneRequired.any {candidates : List KeyCandidate} (none : NoneRequired candidates)
    (test : KeyCandidate → Bool) :
    (candidates.any fun key => test key && key.required) = false := by
  rw [List.any_eq_false]
  intro key member
  rw [none key member, Bool.and_false]
  exact Bool.false_ne_true

/-! ## One step of the scan -/

section Step

variable {scan : Scan}

theorem unwindFrom_of_le {column : Int} (inside : ¬ column < scan.indent) (outer : List Int) :
    unwindFrom column outer scan = scan := by
  cases outer with
  | nil => rfl
  | cons next outer => rw [unwindFrom, if_neg inside]

theorem dropStale_eq (none : NoneRequired scan.candidates) :
    ∃ candidates, NoneRequired candidates ∧
      scan.dropStale = .ok { scan with candidates := candidates } := by
  refine ⟨_, none.filter fun key => !scan.isStale key, ?_⟩
  rw [dropStale, none.any]
  rfl

theorem dropCandidate_eq (none : NoneRequired scan.candidates) :
    ∃ candidates, NoneRequired candidates ∧
      scan.dropCandidate = .ok { scan with candidates := candidates } := by
  refine ⟨_, none.filter fun key => key.level != scan.level, ?_⟩
  rw [dropCandidate, none.any]
  rfl

/-- A place that begins no entry of its block becomes a candidate that need not become a key. -/
theorem saveCandidate_eq (none : NoneRequired scan.candidates) {p : Place} {cs : List Char}
    (cells : scan.cells = p.cells cs) (deeper : scan.indent ≠ p.column) :
    ∃ candidates, NoneRequired candidates ∧
      scan.saveCandidate = .ok { scan with candidates := candidates } := by
  unfold saveCandidate
  split
  · exact ⟨scan.candidates, none, rfl⟩
  · next cell _ shape =>
    have column : cell.column = p.column := by
      rw [← Place.columnOf_cells (p := p) cs, ← cells, shape]
      rfl
    split
    · obtain ⟨kept, noneKept, dropped⟩ := dropCandidate_eq none
      have optional : (!scan.inFlow && scan.indent == (cell.column : Int)) = false := by
        rw [Bool.and_eq_false_iff, beq_eq_false_iff_ne, column]
        exact Or.inr deeper
      refine ⟨⟨scan.level, scan.count, !scan.inFlow && scan.indent == cell.column, cell.index,
        cell.line, cell.column⟩ :: kept, List.forall_mem_cons.mpr ⟨optional, noneKept⟩, ?_⟩
      rw [dropped]
      rfl
    · exact ⟨scan.candidates, none, rfl⟩

/-- The scan outside flow collections, behind a gap. -/
theorem approach_of_gap (level : scan.level = 0) {ended : Bool} {rest : List Cell}
    (gap : skipGap false false scan.cells = (ended, rest)) :
    scan.approach = do
      let scan ← dropStale { scan with cells := rest, keyAllowed := ended || scan.keyAllowed }
      return scan.unwind scan.column := by
  have outside : ({ scan with cells := rest } : Scan).inFlow = false := by
    simp [inFlow, level]
  rw [approach, gap]
  cases ended
  · simp only [outside, Bool.false_and, Bool.false_eq_true, if_false, Bool.false_or]
  · simp only [outside, Bool.not_false, Bool.true_and, if_true, Bool.true_or, allowKey]

/-- Inside its block the scan passes over a gap and closes nothing. -/
theorem approach_eq (none : NoneRequired scan.candidates) (level : scan.level = 0) {ended : Bool}
    {p : Place} {cs : List Char} (gap : skipGap false false scan.cells = (ended, p.cells cs))
    (inside : ¬ (p.column : Int) < scan.indent) :
    ∃ candidates, NoneRequired candidates ∧
      scan.approach = .ok
        { scan with
          cells := p.cells cs
          keyAllowed := ended || scan.keyAllowed
          candidates := candidates } := by
  obtain ⟨candidates, noneKept, dropped⟩ :=
    @dropStale_eq { scan with cells := p.cells cs, keyAllowed := ended || scan.keyAllowed } none
  refine ⟨candidates, noneKept, ?_⟩
  rw [approach_of_gap level gap, dropped]
  simp only [bind, Except.bind, pure, Except.pure, unwind, column, Place.columnOf_cells]
  split
  · rfl
  · apply congrArg Except.ok
    apply unwindFrom_of_le
    exact inside

theorem run_step {next : Scan} {fuel : Nat} {reached : Scan}
    (approach : scan.approach = .ok reached) (goesOn : peek reached.cells ≠ endChar)
    (fetch : reached.fetch = .ok next) :
    scan.run (fuel + 1) = next.run fuel := by
  rw [run, approach]
  simp only [beq_eq_false_iff_ne.mpr goesOn, fetch]
  rfl

/-- A dash and a space at the beginning of a line are the mark of an item. -/
theorem fetch_dash {p : Place} {cs : List Char} (cells : scan.cells = p.cells ('-' :: ' ' :: cs)) :
    scan.fetch = scan.blockEntry := by
  have gap : isBlankOrEnd ' ' = true := rfl
  have marker : ∀ mark, startsMarker mark scan.cells = false := by
    intro mark
    rw [cells, startsMarker, Place.peek_cells, Place.peekAt_one_cells, Place.peek_cells]
    by_cases dash : mark = '-'
    · subst dash
      rfl
    · rw [beq_eq_false_iff_ne.mpr (Ne.symm dash)]
      rfl
  simp only [fetch, marker, Bool.and_false, startsMark]
  rw [cells, Place.peek_cells, Place.peekAt_one_cells, Place.peek_cells]
  rfl

end Step

/-! ## Between two items -/

/-- The scan is in the list at the first column, and no candidate must become a key. -/
structure InList (scan : Scan) : Prop where
  level : scan.level = 0
  indent : scan.indent = 0
  outer : scan.outer = [-1]
  noneRequired : NoneRequired scan.candidates

/-- Behind a dash the characters follow. -/
structure BehindDash (scan : Scan) (cs : List Char) : Prop extends InList scan where
  place : ∃ p : Place, p.column = 1 ∧ scan.cells = p.cells cs

/-- Behind an item the characters follow, on the next line. -/
structure BehindItem (scan : Scan) (cs : List Char) : Prop extends InList scan where
  place : (∃ p : Place, p.column = 0 ∧ scan.cells = p.cells cs ∧ scan.keyAllowed = true) ∨
    ∃ p : Place, scan.cells = p.cells ('\n' :: cs)

variable {scan : Scan}

theorem skipGap_of_ink {c : Char} {cs : List Char} (noSpace : c ≠ ' ') (noHash : c ≠ '#')
    (noBreak : isBreak c = false) (ended : Bool) (p : Place) :
    skipGap false ended (p.cells (c :: cs)) = (ended, p.cells (c :: cs)) := by
  rw [Place.cells_cons, skipGap]
  simp [noSpace, noHash, noBreak]

theorem skipGap_of_nextItem {cs : List Char} (item : NextItem cs) (ended : Bool) (p : Place) :
    skipGap false ended (p.cells cs) = (ended, p.cells cs) := by
  cases item with
  | done => rfl
  | item cs => exact skipGap_of_ink (by decide) (by decide) rfl ended p

/-- The scan passes to the beginning of the next line. -/
theorem BehindItem.approach {cs : List Char} (behind : BehindItem scan cs) (item : NextItem cs) :
    ∃ (p : Place) (candidates : List KeyCandidate), p.column = 0 ∧ NoneRequired candidates ∧
      scan.approach =
        .ok { scan with cells := p.cells cs, keyAllowed := true, candidates := candidates } := by
  obtain ⟨⟨level, indent, -, none⟩, place⟩ := behind
  rcases place with ⟨p, column, cells, allowed⟩ | ⟨p, cells⟩
  · have gap : skipGap false false scan.cells = (false, p.cells cs) := by
      rw [cells, skipGap_of_nextItem item]
    obtain ⟨candidates, noneKept, approach⟩ :=
      approach_eq none level gap (by rw [column, indent]; decide)
    refine ⟨p, candidates, column, noneKept, ?_⟩
    rw [approach, allowed]
    rfl
  · have ends : isBreak '\n' = true := rfl
    have gap : skipGap false false scan.cells = (true, (p.next '\n').cells cs) := by
      rw [cells, Place.cells_cons, skipGap, Place.char_cell, if_pos ends, skipGap_of_nextItem item]
    have column := Place.column_next_of_break (p := p) ends
    obtain ⟨candidates, noneKept, approach⟩ :=
      approach_eq none level gap (by rw [column, indent]; decide)
    exact ⟨p.next '\n', candidates, column, noneKept, approach⟩

/-- The mark of an item, once its block is open. -/
theorem blockEntry_of_open {opened : Scan}
    (opening : scan.openBlock .blockSequenceStart = .ok opened)
    (list : InList opened) {p : Place} (column : p.column = 0) {cs : List Char}
    (cells : opened.cells = p.cells ('-' :: cs)) :
    ∃ next, scan.blockEntry = .ok next ∧ BehindDash next cs ∧
      next.tokens = .blockEntry :: opened.tokens := by
  obtain ⟨level, indent, outer, none⟩ := list
  obtain ⟨candidates, noneKept, dropped⟩ := dropCandidate_eq none
  let next : Scan :=
    ((({ opened with candidates := candidates } : Scan).allowKey true).advance 1).push .blockEntry
  have place : next.cells = (p.next '-').cells cs := by
    show opened.cells.drop 1 = _
    rw [cells, Place.drop_one_cells]
  refine ⟨next, ?_, ⟨⟨level, indent, outer, noneKept⟩, p.next '-', ?_, place⟩, rfl⟩
  · rw [blockEntry, opening]
    simp only [bind, Except.bind, dropped]
    rfl
  · exact congrArg (· + 1) column

/-- The mark of another item of the list. -/
theorem blockEntry_next (list : InList scan) (allowed : scan.keyAllowed = true) {p : Place}
    (column : p.column = 0) {cs : List Char} (cells : scan.cells = p.cells ('-' :: cs)) :
    ∃ next, scan.blockEntry = .ok next ∧ BehindDash next cs ∧
      next.tokens = .blockEntry :: scan.tokens := by
  have here : scan.column = 0 := by
    rw [Scan.column, cells, Place.columnOf_cells, column]
  refine blockEntry_of_open ?_ list column cells
  simp [openBlock, inFlow, list.level, allowed, opens, list.indent, here]

/-- The mark of the first item opens the list. -/
theorem blockEntry_first {candidates : List KeyCandidate} (none : NoneRequired candidates)
    (cs : List Char) :
    ∃ next, ({ start (Place.first.cells ('-' :: cs)) with candidates := candidates }).blockEntry =
        .ok next ∧ BehindDash next cs ∧ next.tokens = [.blockEntry, .blockSequenceStart] := by
  have opened : ({ start (Place.first.cells ('-' :: cs)) with candidates := candidates }).openBlock
      .blockSequenceStart = .ok { start (Place.first.cells ('-' :: cs)) with
        tokens := [.blockSequenceStart], count := 1, indent := 0, outer := [-1],
        candidates := candidates } := rfl
  exact blockEntry_of_open opened ⟨rfl, rfl, rfl, none⟩ rfl rfl

/-! ## Texts -/

theorem fetch_quote (double : Bool) {p : Place} (column : p.column ≠ 0) {cs : List Char}
    (cells : scan.cells = p.cells ((if double then '"' else '\'') :: cs)) :
    scan.fetch = scan.quotedScalar double := by
  have here : (scan.column == 0) = false := by
    rw [Scan.column, cells, Place.columnOf_cells, beq_eq_false_iff_ne]
    exact column
  simp only [fetch, here, Bool.and_false, Bool.false_and, startsMark]
  rw [cells, Place.peek_cells]
  cases double <;> rfl

theorem quotedScalar_eq (list : InList scan) {p : Place} (column : p.column ≠ 0) {double : Bool}
    {quote : Char} {written text next : List Char}
    (known : QuotedAs double written text ('\n' :: next))
    (cells : scan.cells = p.cells (quote :: (written ++ '\n' :: next))) :
    ∃ s, scan.quotedScalar double = .ok s ∧ BehindItem s next ∧
      s.tokens = .scalar (String.ofList text) false :: scan.tokens := by
  have deeper : scan.indent ≠ p.column := by
    rw [list.indent]
    omega
  obtain ⟨candidates, noneKept, saved⟩ := saveCandidate_eq list.noneRequired cells deeper
  have enough : written.length ≤ scan.cells.length + 1 := by
    rw [cells, Place.length_cells, List.length_cons, List.length_append]
    omega
  have read := known (p.next quote) _ enough
  let behind : Scan := ({ scan with candidates := candidates } : Scan).allowKey false
  let reached : Scan := { behind.push (.scalar (String.ofList text) false) with
    cells := ((p.next quote).after written).cells ('\n' :: next) }
  have inList : InList reached := ⟨list.level, list.indent, list.outer, noneKept⟩
  refine ⟨reached, ?_, ⟨inList, Or.inr ⟨_, rfl⟩⟩, rfl⟩
  rw [quotedScalar, keyPart, saved]
  simp only [bind, Except.bind]
  rw [cells] at read ⊢
  rw [Place.drop_one_cells, read]
  rfl

theorem plain_eq (list : InList scan) {p : Place} (column : p.column ≠ 0) {runs : List Run}
    (plain : PlainRuns runs) (noHash : (runs.flatMap Run.chars).head? ≠ some '#') {next : List Char}
    (item : NextItem next) {start : Nat}
    (cells : scan.cells = p.cells (foldRuns true itemIndent start true runs ++ '\n' :: next)) :
    ∃ s, scan.plain = .ok s ∧ BehindItem s next ∧
      s.tokens = .scalar (String.ofList (runs.flatMap Run.chars)) true :: scan.tokens := by
  have deeper : scan.indent ≠ p.column := by
    rw [list.indent]
    omega
  obtain ⟨candidates, noneKept, saved⟩ := saveCandidate_eq list.noneRequired cells deeper
  let kept : Scan := { scan with candidates := candidates }
  have enough : runs.length ≤ kept.cells.length + 1 := by
    have written := plain.length_le itemIndent start true
    show runs.length ≤ scan.cells.length + 1
    rw [cells, Place.length_cells, List.length_append]
    omega
  have found : plainScalar kept.inFlow (kept.indent + 1) (kept.cells.length + 1) [] false
      kept.cells = ⟨runs.flatMap Run.chars, true,
        ((p.after (foldRuns true itemIndent start true runs)).next '\n').cells next⟩ := by
    have outside : kept.inFlow = false := by
      simp [kept, inFlow, list.level]
    have column : kept.indent + 1 = 1 := congrArg (· + 1) list.indent
    have here : kept.cells = p.cells (foldRuns true itemIndent start true runs ++ '\n' :: next) :=
      cells
    rw [outside, column, here]
    rw [here] at enough
    exact plainScalar_foldRuns plain item start true [] false p enough noHash
  let token : Token := .scalar (String.ofList (runs.flatMap Run.chars)) true
  let reached : Scan := { (kept.allowKey true).push token with
    cells := ((p.after (foldRuns true itemIndent start true runs)).next '\n').cells next }
  have inList : InList reached := ⟨list.level, list.indent, list.outer, noneKept⟩
  refine ⟨reached, ?_, ⟨inList, Or.inl ⟨_, ?_, rfl, rfl⟩⟩, rfl⟩
  · rw [Scan.plain, saved]
    simp only [bind, Except.bind]
    rw [found]
    rfl
  · exact Place.column_next_of_break rfl

/-- A plain text begins a plain scalar. -/
theorem fetch_plain {p : Place} (column : p.column ≠ 0) {c : Char} {text written : List Char}
    (begins : PlainStart c text)
    (goesOn : gapFollows text = false → isBlankOrEnd (peek ((p.next c).cells written)) = false)
    (cells : scan.cells = p.cells (c :: written)) (outside : scan.inFlow = false) :
    scan.fetch = scan.plain := by
  have here : (scan.column == 0) = false := by
    rw [Scan.column, cells, Place.columnOf_cells, beq_eq_false_iff_ne]
    exact column
  have first : peek scan.cells = c := by
    rw [cells, Place.peek_cells]
  have second : peekAt 1 scan.cells = peek ((p.next c).cells written) := by
    rw [cells, Place.peekAt_one_cells]
  have noLead : ∀ d, leadIndicators.contains d = true → (c == d) = false := by
    intro d lead
    refine beq_eq_false_iff_ne.mpr fun same => ?_
    rw [← same, begins.noLead] at lead
    cases lead
  have noMark : ∀ d, d = '-' ∨ d = '?' ∨ d = ':' → scan.startsMark d false = false := by
    intro d special
    rw [startsMark, first, second, Bool.false_or, Bool.and_eq_false_iff, beq_eq_false_iff_ne]
    by_cases same : c = d
    · exact Or.inr (goesOn (begins.goesOn (same ▸ special)))
    · exact Or.inl same
  have starts : scan.startsPlain = true := by
    by_cases special : c = '-' ∨ c = '?' ∨ c = ':'
    · simp only [startsPlain, first, second, goesOn (begins.goesOn special), outside]
      rcases special with rfl | rfl | rfl <;> rfl
    · -- All other marks are indicators.
      have marks : "-?:,[]\x7b\x7d#&*!|>'\"%@`".toList =
          '-' :: '?' :: ':' :: [',', '[', ']', '\x7b', '\x7d', '#', '&', '*', '!', '|', '>', '\'',
            '"', '%', '@', '\x60'] := rfl
      have lead : ∀ d ∈ [',', '[', ']', '\x7b', '\x7d', '#', '&', '*', '!', '|', '>', '\'',
          '"', '%', '@', '\x60'], leadIndicators.contains d = true :=
        List.all_eq_true.mp rfl
      have noOther : ("-?:,[]\x7b\x7d#&*!|>'\"%@`".toList).contains c = false := by
        rw [marks, Bool.eq_false_iff, ne_eq, List.contains_iff_mem, List.mem_cons, List.mem_cons,
          List.mem_cons]
        rintro (dash | question | colon | other)
        · exact special (Or.inl dash)
        · exact special (Or.inr (Or.inl question))
        · exact special (Or.inr (Or.inr colon))
        · cases begins.noLead.symm.trans (lead c other)
      simp only [startsPlain, first, begins.ink.visible, noOther, Bool.or_self, Bool.not_false,
        Bool.true_or]
  simp only [fetch, here, first, outside, Bool.and_false, Bool.false_and, noLead '[' rfl,
    noLead '\x7b' rfl, noLead ']' rfl, noLead '\x7d' rfl, noLead ',' rfl, noLead '*' rfl,
    noLead '&' rfl, noLead '!' rfl, noLead '|' rfl, noLead '>' rfl, noLead '\'' rfl,
    noLead '"' rfl, noMark '-' (by simp), noMark '?' (by simp), noMark ':' (by simp), starts,
    Bool.false_eq_true, if_false, if_true]

/-- A text behind a dash is read up to the next item. -/
theorem fetch_text (list : InList scan) {p : Place} (column : p.column ≠ 0) (cs : List Char)
    {next : List Char} (item : NextItem next) {start : Nat}
    (cells : scan.cells =
      p.cells ((writeText true itemIndent start cs).map unifiedBreak ++ '\n' :: next)) :
    ∃ s, scan.fetch = .ok s ∧ BehindItem s next ∧ s.tokens = textToken cs :: scan.tokens := by
  unfold writeText at cells
  unfold textToken readBack
  cases style : styleOf cs with
  | single =>
      simp only [style] at cells ⊢
      have known := quotedAs_single (allowsSingleQuotes_of_styleOf style)
        (show '\n' ≠ '\'' by decide) next (start + 1)
      have shape : scan.cells = p.cells ('\'' :: ((foldRuns true itemIndent (start + 1) true
          (runsOf (doubleQuotes cs))).map unifiedBreak ++ ['\''] ++ '\n' :: next)) := by
        rw [cells, writeSingle, List.cons_append, List.map_cons, List.map_append]
        rfl
      rw [fetch_quote false column shape]
      exact quotedScalar_eq list column known shape
  | double =>
      simp only [style] at cells ⊢
      have known := (spacedAs_foldDouble cs ('\n' :: next) (start + 1) false true).quotedAs
      have same : (foldDouble true itemIndent (start + 1) false true cs).map unifiedBreak =
          foldDouble true itemIndent (start + 1) false true cs :=
        map_unifiedBreak fun member => (isSafe_of_mem_foldDouble _ _ _ _ _ _ member).2 rfl
      have shape : scan.cells = p.cells ('"' ::
          (foldDouble true itemIndent (start + 1) false true cs ++ ['"'] ++ '\n' :: next)) := by
        rw [cells, writeDouble, List.cons_append, List.map_cons, List.map_append, same]
        rfl
      rw [fetch_quote true column shape]
      exact quotedScalar_eq list column known shape
  | plain =>
      simp only [style] at cells ⊢
      obtain ⟨plain, c, rest, rfl, begins⟩ := plainRuns_runsOf style
      have text := flatMap_chars_runsOf (c :: rest)
      have same : (writePlain true itemIndent start (c :: rest)).map unifiedBreak =
          writePlain true itemIndent start (c :: rest) :=
        map_unifiedBreak fun member => (isSafe_of_mem_writePlain style _ _ _ _ member).2 rfl
      rw [same, writePlain] at cells
      have outside : scan.inFlow = false := by
        simp [inFlow, list.level]
      obtain ⟨first, written, others, shape, content, -⟩ := plain.starts itemIndent start true
      obtain ⟨rfl, -⟩ := List.cons.inj (text.symm.trans content)
      have goesOn : gapFollows rest = false →
          isBlankOrEnd (peek ((p.next c).cells (written ++ '\n' :: next))) = false := by
        intro noGap
        cases rest with
        | nil => cases noGap
        | cons d rest =>
            have ink := isBlankOrEnd_of_isGap noGap
            have noSpace : d ≠ ' ' := by
              rintro rfl
              cases ink
            obtain ⟨more, both⟩ := plain.goesOn text noSpace itemIndent start true
            obtain ⟨-, rfl⟩ := List.cons.inj (shape.symm.trans both)
            rw [List.cons_append, Place.peek_cells, ink]
      have noHash : ((runsOf (c :: rest)).flatMap Run.chars).head? ≠ some '#' := by
        rw [text, List.head?_cons]
        intro hash
        obtain rfl := Option.some.inj hash
        cases begins.noLead
      have here := cells
      rw [shape, List.cons_append] at here
      rw [fetch_plain column begins goesOn here outside]
      have found := plain_eq list column plain noHash item cells
      rw [text] at found
      exact found

/-! ## Runs -/

/-- The scan of the first item's mark opens the list. -/
theorem run_first (cs : List Char) :
    ∃ s, (∀ fuel, (start (Place.first.cells ('-' :: ' ' :: cs))).run (fuel + 1) = s.run fuel) ∧
      BehindDash s (' ' :: cs) ∧ s.tokens = [.blockEntry, .blockSequenceStart] := by
  have gap : skipGap false false (start (Place.first.cells ('-' :: ' ' :: cs))).cells =
      (false, Place.first.cells ('-' :: ' ' :: cs)) :=
    skipGap_of_ink (by decide) (by decide) rfl false Place.first
  obtain ⟨candidates, none, approach⟩ :=
    @approach_eq (start (Place.first.cells ('-' :: ' ' :: cs))) (List.forall_mem_nil _) rfl false
      Place.first _ gap (show ¬ ((0 : Nat) : Int) < -1 by decide)
  obtain ⟨s, entry, behind, tokens⟩ := blockEntry_first none (' ' :: cs)
  refine ⟨s, fun fuel => run_step approach ?_ ?_, behind, tokens⟩
  · show peek (Place.first.cells ('-' :: ' ' :: cs)) ≠ endChar
    rw [Place.peek_cells]
    decide
  · rw [fetch_dash rfl]
    exact entry

/-- The mark of a further item. -/
theorem BehindItem.run_dash {cs : List Char} (behind : BehindItem scan ('-' :: ' ' :: cs)) :
    ∃ s, (∀ fuel, scan.run (fuel + 1) = s.run fuel) ∧ BehindDash s (' ' :: cs) ∧
      s.tokens = .blockEntry :: scan.tokens := by
  obtain ⟨p, candidates, column, none, approach⟩ := behind.approach (.item cs)
  obtain ⟨s, entry, dash, tokens⟩ := @blockEntry_next
    { scan with cells := p.cells ('-' :: ' ' :: cs), keyAllowed := true, candidates := candidates }
    ⟨behind.level, behind.indent, behind.outer, none⟩ rfl p column _ rfl
  refine ⟨s, fun fuel => run_step approach ?_ ?_, dash, tokens⟩
  · show peek (p.cells ('-' :: ' ' :: cs)) ≠ endChar
    rw [Place.peek_cells]
    decide
  · rw [fetch_dash rfl]
    exact entry

/-- The text of an item. -/
theorem BehindDash.run_text {cs next : List Char} (item : NextItem next)
    (behind : BehindDash scan
      (' ' :: ((writeText true itemIndent itemIndent cs).map unifiedBreak ++ '\n' :: next))) :
    ∃ s, (∀ fuel, scan.run (fuel + 1) = s.run fuel) ∧ BehindItem s next ∧
      s.tokens = textToken cs :: scan.tokens := by
  obtain ⟨⟨level, indent, outer, none⟩, p, column, cells⟩ := behind
  obtain ⟨c, written, shape, ink, noHash⟩ := writeText_starts itemIndent itemIndent cs
  obtain ⟨visible, noBreak, noEnd⟩ := isBlankOrEnd_eq_false.mp ink
  have noSpace : c ≠ ' ' := by
    rintro rfl
    cases visible
  have gap : skipGap false false scan.cells = (false, (p.next ' ').cells
      ((writeText true itemIndent itemIndent cs).map unifiedBreak ++ '\n' :: next)) := by
    rw [cells, Place.cells_cons, skipGap, shape, List.cons_append]
    exact skipGap_of_ink noSpace noHash noBreak false _
  have deeper : (p.next ' ').column = 2 := by
    rw [Place.column_next_of_space, column]
  obtain ⟨candidates, noneKept, approach⟩ :=
    approach_eq none level gap (by rw [deeper, indent]; decide)
  let near : Scan :=
    { scan with
      cells := (p.next ' ').cells
        ((writeText true itemIndent itemIndent cs).map unifiedBreak ++ '\n' :: next)
      keyAllowed := false || scan.keyAllowed
      candidates := candidates }
  have list : InList near := ⟨level, indent, outer, noneKept⟩
  obtain ⟨s, fetch, reached, tokens⟩ :=
    fetch_text list (show (p.next ' ').column ≠ 0 by rw [deeper]; decide) cs item rfl
  refine ⟨s, fun fuel => run_step approach ?_ fetch, reached, tokens⟩
  show peek ((p.next ' ').cells
    ((writeText true itemIndent itemIndent cs).map unifiedBreak ++ '\n' :: next)) ≠ endChar
  rw [shape, List.cons_append, Place.peek_cells]
  exact noEnd

/-- The end of the list and of the document. -/
theorem BehindItem.run_end (behind : BehindItem scan []) (fuel : Nat) :
    scan.run (fuel + 1) = scan.tokens.reverse ++ [.blockEnd, .streamEnd] := by
  obtain ⟨p, candidates, -, none, approach⟩ := behind.approach .done
  let reached : Scan :=
    { scan with cells := p.cells [], keyAllowed := true, candidates := candidates }
  let closed : Scan :=
    { reached.push .blockEnd with indent := -1, outer := [] }
  have unwound : reached.unwind (-1) = closed := by
    simp [reached, closed, unwind, inFlow, behind.level, behind.outer, behind.indent, unwindFrom,
      push]
  obtain ⟨kept, -, dropped⟩ := @dropCandidate_eq closed none
  have atEnd : (peek reached.cells == endChar) = true := rfl
  have finished : (reached.unwind (-1)).dropCandidate = .ok { closed with candidates := kept } := by
    rw [unwound, dropped]
  rw [run, approach]
  simp only [reached] at atEnd finished ⊢
  simp only [atEnd, finished, if_true]
  simp [closed, reached, push]

end Scan

end PathExpr.Format.Yaml

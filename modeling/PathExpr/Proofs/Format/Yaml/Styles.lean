import PathExpr.Proofs.Format.Yaml.Quoted
import PathExpr.Proofs.Format.Yaml.Runs
import PathExpr.Proofs.Number.Digits

/-!
# Quoted texts of a written document

A text between double quotes is read back as it is.  A text between single
quotes is read back as it is when no next-line character is in it: this one is
taken for a line feed, and folded.
-/

namespace PathExpr.Format.Yaml

open PathExpr.Number PathExpr.Text

/-- The columns by which the further lines of an item are indented. -/
def itemIndent : Nat := 2

/-! ## Characters written as they are -/

theorem ne_of_isClear {c other : Char} (clear : isClear c = true)
    (noClear : isClear other = false) : c ≠ other := by
  rintro rfl
  cases clear.symm.trans noClear

/-- A visible character that needs no escape. -/
structure IsInk (c : Char) : Prop where
  clear : isClear c = true
  noSpace : c ≠ ' '
  noBreak : isWrittenBreak c = false

theorem IsInk.visible {c : Char} (ink : IsInk c) : isBlankOrEnd c = false := by
  have noBreak := ink.noBreak
  rw [isWrittenBreak, Bool.or_eq_false_iff] at noBreak
  refine isBlankOrEnd_eq_false.mpr ⟨?_, noBreak.1, ne_of_isClear ink.clear rfl⟩
  simp [isSpaceOrTab, ink.noSpace, ne_of_isClear ink.clear (show isClear '\t' = false from rfl)]

theorem IsInk.unified {c : Char} (ink : IsInk c) : unifiedBreak c = c := by
  refine unifiedBreak_of_ne ?_
  rintro rfl
  cases ink.noBreak

/-! ## Between single quotes -/

/-- What a stretch between single quotes is read as. -/
def Run.reflowed : Run → List Char
  | breaks cs =>
    if cs.head? = some '\x85' then foldBreaks '\n' (cs.tail.map unifiedBreak)
    else cs.map unifiedBreak
  | run => run.chars

/-- What a text between single quotes is read as. -/
def reflowed (cs : List Char) : List Char :=
  (runsOf cs).flatMap Run.reflowed

/-- A line end stays one when line ends are unified. -/
theorem isBreak_unifiedBreak {c : Char} (ends : isWrittenBreak c = true) :
    isBreak (unifiedBreak c) = true := by
  unfold unifiedBreak
  split
  · rfl
  · next other => simpa [isWrittenBreak, other] using ends

theorem QuotedAs.word {written text rest : List Char} (known : QuotedAs false written text rest)
    {cs : List Char} (ink : ∀ c ∈ cs, IsInk c) :
    QuotedAs false ((doubleQuotes cs).map unifiedBreak ++ written) (cs ++ text) rest := by
  induction cs with
  | nil => exact known
  | cons c cs ih =>
      obtain ⟨first, others⟩ := List.forall_mem_cons.mp ink
      rw [doubleQuotes_cons]
      split
      · next quote =>
        subst quote
        exact (ih others).quotes
      · next other =>
        rw [List.singleton_append, List.map_cons, first.unified]
        exact (ih others).char ⟨first.visible, other, fun double => by cases double⟩

/-- The blanks in front of a further line. -/
theorem map_blanks (count : Nat) : (blanks count).map unifiedBreak = blanks count :=
  List.map_replicate

/-- Line ends, the first of them written twice where it is a line feed. -/
theorem QuotedAs.lines {written text rest : List Char} (known : QuotedAs false written text rest)
    (inked : Inked written) {cs : List Char} (proper : (Run.breaks cs).Proper) :
    QuotedAs false
      (((if cs.head? = some '\n' then ['\n'] else []) ++ cs).map unifiedBreak ++
        (blanks itemIndent ++ written))
      ((Run.breaks cs).reflowed ++ text) rest := by
  obtain ⟨nonempty, all⟩ := proper
  obtain ⟨b, cs, rfl⟩ := List.exists_cons_of_ne_nil nonempty
  obtain ⟨ends, others⟩ := List.forall_mem_cons.mp all
  have breaks : ∀ c ∈ cs.map unifiedBreak, isBreak c = true := by
    rw [List.forall_mem_map]
    exact fun c member => isBreak_unifiedBreak (others c member)
  by_cases feed : b = '\n'
  · subst feed
    exact known.breaks (show isBreak '\n' = true from rfl)
      (List.forall_mem_cons.mpr ⟨rfl, breaks⟩) 1 inked
  · have folded : (Run.breaks (b :: cs)).reflowed =
        foldBreaks (unifiedBreak b) (cs.map unifiedBreak) := by
      by_cases nextLine : b = '\x85'
      · subst nextLine
        rfl
      · rw [Run.reflowed, if_neg (by simpa using nextLine), unifiedBreak_of_ne nextLine, foldBreaks,
          if_pos feed, List.map_cons, unifiedBreak_of_ne nextLine]
    rw [if_neg (by simpa using feed), folded]
    exact known.breaks (isBreak_unifiedBreak ends) breaks 1 inked

/-- A stretch of characters that need no escape. -/
def Run.IsClear (run : Run) : Prop :=
  ∀ c ∈ run.chars, isClear c = true

section Single

variable {runs : List Run}

/-- What begins with a word, or has ended, begins visibly. -/
theorem inked_foldRuns (clear : ∀ run ∈ runs, run.IsClear) (proper : ∀ run ∈ runs, run.Proper)
    (starts : ∀ run ∈ runs.head?, run.isWord = true) (indent column : Nat) (isFirst : Bool) :
    Inked ((foldRuns true indent column isFirst (runs.map Run.quoted)).map unifiedBreak ++
      ['\'']) := by
  cases runs with
  | nil => exact ⟨'\'', [], rfl, rfl⟩
  | cons run runs =>
      cases run with
      | spaces count => cases starts _ rfl
      | breaks cs => cases starts _ rfl
      | word cs =>
          obtain ⟨nonempty, all⟩ := proper _ List.mem_cons_self
          obtain ⟨c, cs, rfl⟩ := List.exists_cons_of_ne_nil nonempty
          obtain ⟨noSpace, noBreak⟩ := all c List.mem_cons_self
          have ink : IsInk c :=
            ⟨clear _ List.mem_cons_self c List.mem_cons_self, noSpace, noBreak⟩
          rw [List.map_cons, Run.quoted_word, foldRuns, doubleQuotes_cons]
          split
          · exact ⟨'\'', _, rfl, rfl⟩
          · rw [List.singleton_append, List.cons_append, List.map_cons, ink.unified]
            exact ⟨c, _, rfl, ink.visible⟩

/-- Stretches are read one by one; a fold between words is read as the space it was written for. -/
theorem quotedAs_foldRuns (clear : ∀ run ∈ runs, run.IsClear) (spaced : WellSpaced runs) {c : Char}
    (other : c ≠ '\'') (rest : List Char) (column : Nat) (isFirst : Bool) :
    QuotedAs false
      ((foldRuns true itemIndent column isFirst (runs.map Run.quoted)).map unifiedBreak ++ ['\''])
      (runs.flatMap Run.reflowed) (c :: rest) := by
  induction runs generalizing column isFirst with
  | nil => exact .close_single other rest
  | cons run runs ih =>
      obtain ⟨first, others⟩ := List.forall_mem_cons.mp clear
      have known := ih others spaced.tail
      have inked := fun starts => inked_foldRuns others spaced.tail.proper starts
      have follows := (List.isChain_cons.mp spaced.alternates).1
      cases run with
      | word cs =>
          obtain ⟨-, all⟩ := spaced.proper _ List.mem_cons_self
          rw [List.map_cons, Run.quoted_word, foldRuns, List.map_append, List.append_assoc]
          refine (known _ false).word fun c member => ?_
          exact ⟨first c member, (all c member).1, (all c member).2⟩
      | spaces count =>
          have words : ∀ run ∈ runs.head?, run.isWord = true := fun run head => by
            simpa [Run.isWord] using follows run head
          rw [List.map_cons, Run.quoted_spaces, foldRuns]
          split
          · next folds =>
            simp only [Bool.and_eq_true, beq_iff_eq] at folds
            obtain ⟨⟨⟨⟨rfl, -⟩, -⟩, -⟩, -⟩ := folds
            exact (known itemIndent false).breaks rfl (List.forall_mem_nil _) 1 (inked words _ _ _)
          · rw [List.map_append, map_blanks, List.append_assoc]
            exact (known _ false).spaces (inked words _ _ _) count
      | breaks cs =>
          have words : ∀ run ∈ runs.head?, run.isWord = true := fun run head => by
            simpa [Run.isWord] using follows run head
          rw [List.map_cons, Run.quoted_breaks, foldRuns, List.map_append, List.map_append,
            map_blanks, List.append_assoc, List.append_assoc]
          exact (known itemIndent false).lines (inked words _ _ _)
            (spaced.proper _ List.mem_cons_self)

end Single

/-- Only texts without escapes, and without spaces at line ends, get single quotes. -/
theorem isClear_of_allowsSingleQuotes {cs : List Char} (allows : allowsSingleQuotes cs = true) :
    (∀ c ∈ cs, isClear c = true) ∧ hasSpaceAtBreak cs = false := by
  rw [allowsSingleQuotes, Bool.and_eq_true, List.all_eq_true, Bool.not_eq_true'] at allows
  exact allows

theorem isClear_of_mem_runsOf {cs : List Char} (clear : ∀ c ∈ cs, isClear c = true) :
    ∀ run ∈ runsOf cs, run.IsClear := by
  intro run member c inside
  apply clear
  rw [← flatMap_chars_runsOf cs]
  exact List.mem_flatMap.mpr ⟨run, member, inside⟩

/-- A text written between single quotes is read with its line ends unified and folded. -/
theorem quotedAs_single {cs : List Char} (allows : allowsSingleQuotes cs = true) {c : Char}
    (other : c ≠ '\'') (rest : List Char) (column : Nat) :
    QuotedAs false
      ((foldRuns true itemIndent column true (runsOf (doubleQuotes cs))).map unifiedBreak ++ ['\''])
      (reflowed cs) (c :: rest) := by
  obtain ⟨clear, apart⟩ := isClear_of_allowsSingleQuotes allows
  rw [runsOf_doubleQuotes]
  exact quotedAs_foldRuns (isClear_of_mem_runsOf clear) (wellSpaced_runsOf apart) other rest
    column true

/-! ## Between double quotes -/

/-- The letters of escapes are read as the characters that they are written for. -/
theorem escapeChar?_of_shortEscapes :
    ∀ entry ∈ shortEscapes, escapeChar? entry.2 = some entry.1 := by
  decide

theorem toUpper_hexDigit : ∀ d < 16, digitValue? (hexDigit d).toUpper = some d := by
  decide

theorem length_hexCapital (width n : Nat) : (hexCapital width n).length = width := by
  rw [hexCapital, List.length_map, length_hexPadded]

theorem ofDigits_hexCapital (width n : Nat) :
    ofDigits 16 (hexCapital width n) = n % 16 ^ width := by
  rw [← ofDigits_hexPadded]
  refine ofDigits_map fun c member => ?_
  obtain ⟨d, small, rfl⟩ := eq_hexDigit_of_mem_hexPadded member
  rw [toUpper_hexDigit d small, digitValue?_hexDigit d small]

theorem all_isDigitIn_hexCapital (width n : Nat) :
    (hexCapital width n).all (isDigitIn 16) = true := by
  rw [hexCapital, List.all_map, List.all_eq_true]
  intro c member
  obtain ⟨d, small, rfl⟩ := eq_hexDigit_of_mem_hexPadded member
  rw [Function.comp_apply, isDigitIn, toUpper_hexDigit d small]
  exact decide_eq_true small

theorem numberedChar_toNat (c : Char) : numberedChar c.toNat = .ok c := by
  have valid : c.toNat < 0xd800 ∨ 0xdfff < c.toNat ∧ c.toNat < 0x110000 := c.valid
  have noHalf : (decide (0xd800 ≤ c.toNat) && decide (c.toNat ≤ 0xdfff)) = false := by
    rw [Bool.and_eq_false_iff, decide_eq_false_iff_not, decide_eq_false_iff_not]
    omega
  rw [numberedChar, if_neg (by omega), if_neg (by omega), if_neg (Bool.eq_false_iff.mp noHalf),
    Char.ofNat_toNat]

/-- The escape of a character is read as the character. -/
theorem QuotedAs.escapeOf {written text rest : List Char} (known : QuotedAs true written text rest)
    (c : Char) : QuotedAs true (escapeOf c ++ written) (c :: text) rest := by
  have numbered : ∀ {letter : Char} {width : Nat}, escapeChar? letter = none →
      escapeDigits? letter = some width → c.toNat < 16 ^ width →
      QuotedAs true ('\\' :: letter :: (hexCapital width c.toNat ++ written)) (c :: text) rest := by
    intro letter width noShort digits small
    refine known.numbered noShort (by rw [length_hexCapital, digits])
      (all_isDigitIn_hexCapital _ _) ?_
    rw [ofDigits_hexCapital, Nat.mod_eq_of_lt small, numberedChar_toNat]
  have valid := toNat_lt c
  rw [Yaml.escapeOf]
  split
  · next letter short =>
    obtain ⟨before, after, entries, -⟩ := List.lookup_eq_some_iff.mp short
    refine known.escape (escapeChar?_of_shortEscapes (c, letter) ?_)
    rw [entries]
    exact List.mem_append_right before List.mem_cons_self
  · simp only []
    split
    · next small => exact numbered rfl rfl (by omega)
    · split
      · next small => exact numbered rfl rfl (by omega)
      · exact numbered rfl rfl (by omega)

theorem inked_escapeOf (c : Char) (written : List Char) : Inked (escapeOf c ++ written) := by
  unfold escapeOf
  split
  · exact ⟨'\\', _, rfl, rfl⟩
  · simp only []
    split
    · exact ⟨'\\', _, rfl, rfl⟩
    · split <;> exact ⟨'\\', _, rfl, rfl⟩

theorem ne_of_isSelfQuoted {c other : Char} (itself : isSelfQuoted c = true)
    (escaped : isSelfQuoted other = false) : c ≠ other := by
  rintro rfl
  cases itself.symm.trans escaped

theorem IsQuotable.of_isSelfQuoted {c : Char} (itself : isSelfQuoted c = true) (noSpace : c ≠ ' ') :
    IsQuotable true c := by
  have tab : c ≠ '\t' := ne_of_isSelfQuoted itself rfl
  have feed : c ≠ '\n' := ne_of_isSelfQuoted itself rfl
  have line : c ≠ '\u2028' := ne_of_isSelfQuoted itself rfl
  have paragraph : c ≠ '\u2029' := ne_of_isSelfQuoted itself rfl
  have noGap : isSpaceOrTab c = false := by
    simp [isSpaceOrTab, noSpace, tab]
  have noBreak : isBreak c = false := by
    simp [isBreak, feed, line, paragraph]
  have visible : isBlankOrEnd c = false :=
    isBlankOrEnd_eq_false.mpr ⟨noGap, noBreak, ne_of_isSelfQuoted itself rfl⟩
  exact ⟨visible, ne_of_isSelfQuoted itself rfl, fun _ => ne_of_isSelfQuoted itself rfl⟩

/-- Spaces, if there are any, and behind them what starts visibly, between double quotes. -/
def SpacedAs (written text rest : List Char) : Prop :=
  ∃ count others more, written = blanks count ++ others ∧ text = blanks count ++ more ∧
    Inked others ∧ QuotedAs true others more rest

namespace SpacedAs

variable {written text rest : List Char}

theorem of_inked (inked : Inked written) (known : QuotedAs true written text rest) :
    SpacedAs written text rest :=
  ⟨0, written, text, rfl, rfl, inked, known⟩

theorem quotedAs (known : SpacedAs written text rest) : QuotedAs true written text rest := by
  obtain ⟨count, others, more, rfl, rfl, inked, known⟩ := known
  exact known.spaces inked count

theorem space (known : SpacedAs written text rest) :
    SpacedAs (' ' :: written) (' ' :: text) rest := by
  obtain ⟨count, others, more, rfl, rfl, inked, known⟩ := known
  exact ⟨count + 1, others, more, rfl, rfl, inked, known⟩

theorem of_space (known : SpacedAs (' ' :: written) (' ' :: text) rest) :
    SpacedAs written text rest := by
  obtain ⟨count, others, more, shape, content, inked, known⟩ := known
  cases count with
  | zero =>
      obtain ⟨c, cs, rfl, ink⟩ := inked
      cases (List.cons.inj shape).1
      cases ink
  | succ count =>
      exact ⟨count, others, more, (List.cons.inj shape).2, (List.cons.inj content).2, inked, known⟩

/-- What does not begin with a space in the text begins visibly. -/
theorem inked (known : SpacedAs written text rest) (noSpace : text.head? ≠ some ' ') :
    Inked written := by
  obtain ⟨count, others, more, rfl, rfl, inked, -⟩ := known
  cases count with
  | zero => exact inked
  | succ count => exact absurd rfl noSpace

end SpacedAs

/-- On a short line a space is written as itself. -/
theorem foldDouble_space {column : Nat} (short : column ≤ lineWidth) (afterEscape isFirst : Bool)
    (cs : List Char) :
    foldDouble true itemIndent column afterEscape isFirst (' ' :: cs) =
      ' ' :: foldDouble true itemIndent (column + 1) false false cs := by
  have noFold : decide (lineWidth < column) = false := decide_eq_false (Nat.not_lt.mpr short)
  have itself : isSelfQuoted ' ' = true := rfl
  rw [foldDouble]
  simp only [itself, noFold, Bool.and_false, Bool.false_eq_true, if_true, if_false]

/-- A text written between double quotes is read as it is, wherever its lines are folded. -/
theorem spacedAs_foldDouble (cs rest : List Char) (column : Nat) (afterEscape isFirst : Bool) :
    SpacedAs (foldDouble true itemIndent column afterEscape isFirst cs ++ ['"']) cs rest := by
  induction cs generalizing column afterEscape isFirst with
  | nil => exact .of_inked ⟨'"', [], rfl, rfl⟩ (.close_double rest)
  | cons c cs ih =>
      rw [foldDouble]
      simp only []
      split
      · next itself =>
        split
        · by_cases space : c = ' '
          · subst space
            exact .of_inked ⟨'\\', _, rfl, rfl⟩
              (((ih _ _ _).quotedAs.escape rfl).escapedBreak 1 ⟨'\\', _, rfl, rfl⟩)
          · have quotable := IsQuotable.of_isSelfQuoted itself space
            have mark : foldMark itemIndent (c == ' ') = ['\\', '\n', ' ', ' '] := by
              rw [beq_eq_false_iff_ne.mpr space]
              rfl
            rw [mark]
            exact .of_inked ⟨'\\', _, rfl, rfl⟩
              (((ih _ _ _).quotedAs.char quotable).escapedBreak 1 ⟨c, _, rfl, quotable.ink⟩)
        · by_cases space : c = ' '
          · subst space
            exact (ih _ _ _).space
          · have quotable := IsQuotable.of_isSelfQuoted itself space
            exact .of_inked ⟨c, _, rfl, quotable.ink⟩ ((ih _ _ _).quotedAs.char quotable)
      · split
        · by_cases space : cs.head? = some ' '
          · -- The space that begins the next line is marked: so short a line has no fold there.
            obtain ⟨cs, rfl⟩ := List.head?_eq_some_iff.mp space
            have mark : foldMark itemIndent ((' ' :: cs).head? == some ' ') =
                ['\\', '\n', ' ', ' ', '\\'] := rfl
            have next := ih 3 true false
            rw [foldDouble_space (by decide)] at next
            rw [mark, List.append_assoc, List.append_assoc]
            refine .of_inked (inked_escapeOf c _) (QuotedAs.escapeOf ?_ c)
            refine QuotedAs.escapedBreak ?_ 1 ⟨'\\', _, rfl, rfl⟩
            rw [show ['\\', '\n', ' ', ' ', '\\'].length - 2 = 3 from rfl,
              foldDouble_space (by decide)]
            exact next.of_space.quotedAs.escape rfl
          · have mark : foldMark itemIndent (cs.head? == some ' ') = ['\\', '\n', ' ', ' '] := by
              rw [beq_eq_false_iff_ne.mpr space]
              rfl
            rw [mark, List.append_assoc, List.append_assoc]
            exact .of_inked (inked_escapeOf c _)
              (((ih _ _ _).quotedAs.escapedBreak 1 ((ih _ _ _).inked space)).escapeOf c)
        · rw [List.append_assoc]
          exact .of_inked (inked_escapeOf c _) ((ih _ _ _).quotedAs.escapeOf c)

/-! ## What is written needs no escape -/

/-- Nothing but spaces and line feeds is put between stretches. -/
theorem forall_mem_foldRuns {holds : Char → Prop} (space : holds ' ') (feed : holds '\n')
    {runs : List Run} (inside : ∀ run ∈ runs, ∀ c ∈ run.chars, holds c) (mayFold : Bool)
    (indent column : Nat) (isFirst : Bool) :
    ∀ c ∈ foldRuns mayFold indent column isFirst runs, holds c := by
  have spaces : ∀ count, ∀ c ∈ blanks count, holds c := by
    intro count c member
    rw [List.eq_of_mem_replicate member]
    exact space
  induction runs generalizing column isFirst with
  | nil => exact List.forall_mem_nil _
  | cons run runs ih =>
      obtain ⟨first, others⟩ := List.forall_mem_cons.mp inside
      have behind := fun column isFirst => ih others column isFirst
      cases run with
      | word cs =>
          rw [foldRuns]
          exact List.forall_mem_append.mpr ⟨first, behind _ _⟩
      | spaces count =>
          rw [foldRuns]
          split
          · refine List.forall_mem_cons.mpr ⟨feed, ?_⟩
            exact List.forall_mem_append.mpr ⟨spaces indent, behind _ _⟩
          · exact List.forall_mem_append.mpr ⟨spaces count, behind _ _⟩
      | breaks cs =>
          rw [foldRuns]
          refine List.forall_mem_append.mpr ⟨List.forall_mem_append.mpr
            ⟨List.forall_mem_append.mpr ⟨?_, first⟩, spaces indent⟩, behind _ _⟩
          split
          · exact List.forall_mem_singleton.mpr feed
          · exact List.forall_mem_nil _

theorem isClear_of_mem_doubleQuotes {cs : List Char} (clear : ∀ c ∈ cs, isClear c = true) :
    ∀ c ∈ doubleQuotes cs, isClear c = true := by
  intro c member
  obtain ⟨d, source, written⟩ := List.mem_flatMap.mp member
  split at written
  · next quote =>
    have : c = '\'' := by simpa using written
    rw [this]
    rfl
  · rw [List.mem_singleton.mp written]
    exact clear d source

/-- The character is written and read as it is. -/
def IsSafe (c : Char) : Prop :=
  isClear c = true ∧ c ≠ '\x85'

theorem isSafe_of_isSelfQuoted {c : Char} (itself : isSelfQuoted c = true) : IsSafe c := by
  refine ⟨?_, ne_of_isSelfQuoted itself rfl⟩
  simp only [isSelfQuoted, Bool.and_eq_true, Bool.or_eq_true, decide_eq_true_eq] at itself
  obtain ⟨⟨-, noMark⟩, range⟩ := itself
  simp only [isClear, noMark, Bool.and_true, Bool.or_eq_true, Bool.and_eq_true, decide_eq_true_eq]
  rcases range with (range | range) | range
  · exact Or.inl (Or.inl (Or.inr range))
  · exact Or.inr (Or.inl (Or.inl range))
  · exact Or.inr (Or.inl (Or.inr range))

theorem isSafe_of_mem_escapeOf {c : Char} : ∀ d ∈ escapeOf c, IsSafe d := by
  have letters : ∀ entry ∈ shortEscapes, IsSafe entry.2 := by
    unfold IsSafe
    decide
  have hex : ∀ width, ∀ d ∈ hexCapital width c.toNat, IsSafe d := by
    intro width d member
    obtain ⟨digit, inside, rfl⟩ := List.mem_map.mp member
    obtain ⟨value, small, rfl⟩ := eq_hexDigit_of_mem_hexPadded inside
    have digits : ∀ value < 16, IsSafe (hexDigit value).toUpper := by
      unfold IsSafe
      decide
    exact digits value small
  have backslash : IsSafe '\\' := ⟨rfl, by decide⟩
  unfold escapeOf
  split
  · next letter short =>
    obtain ⟨before, after, entries, -⟩ := List.lookup_eq_some_iff.mp short
    refine List.forall_mem_cons.mpr ⟨backslash, List.forall_mem_singleton.mpr ?_⟩
    refine letters (c, letter) ?_
    rw [entries]
    exact List.mem_append_right before List.mem_cons_self
  · have numbered : ∀ letter width, IsSafe letter →
        ∀ d ∈ '\\' :: letter :: hexCapital width c.toNat, IsSafe d := fun letter width safe =>
      List.forall_mem_cons.mpr ⟨backslash, List.forall_mem_cons.mpr ⟨safe, hex width⟩⟩
    simp only []
    split
    · exact numbered 'x' 2 ⟨rfl, by decide⟩
    · split
      · exact numbered 'u' 4 ⟨rfl, by decide⟩
      · exact numbered 'U' 8 ⟨rfl, by decide⟩

theorem isSafe_of_mem_foldMark {indent : Nat} {spaceNext : Bool} :
    ∀ c ∈ foldMark indent spaceNext, IsSafe c := by
  intro c member
  have cases : c = '\\' ∨ c = '\n' ∨ c = ' ' := by
    cases spaceNext <;> simp [foldMark, blanks] at member <;> tauto
  rcases cases with rfl | rfl | rfl <;> exact ⟨rfl, by decide⟩

/-- A text between double quotes is written with characters that are read as they are. -/
theorem isSafe_of_mem_foldDouble {cs : List Char} (mayFold : Bool) (indent column : Nat)
    (afterEscape isFirst : Bool) :
    ∀ c ∈ foldDouble mayFold indent column afterEscape isFirst cs, IsSafe c := by
  induction cs generalizing column afterEscape isFirst with
  | nil => exact List.forall_mem_nil _
  | cons c cs ih =>
      rw [foldDouble]
      simp only []
      split
      · next itself =>
        have behind := fun column => List.forall_mem_cons.mpr
          ⟨isSafe_of_isSelfQuoted itself, ih column false false⟩
        split
        · exact List.forall_mem_append.mpr ⟨isSafe_of_mem_foldMark, behind _⟩
        · exact behind _
      · split
        · exact List.forall_mem_append.mpr
            ⟨List.forall_mem_append.mpr ⟨isSafe_of_mem_escapeOf, isSafe_of_mem_foldMark⟩, ih _ _ _⟩
        · exact List.forall_mem_append.mpr ⟨isSafe_of_mem_escapeOf, ih _ _ _⟩

end PathExpr.Format.Yaml

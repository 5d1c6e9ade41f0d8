import PathExpr.Proofs.Text.Trim
import PathExpr.Text.Case

/-!
# What changes of case leave alone

Blanks and the marks that give an expression its structure have no case: no
table moves them, and no table moves another character to them.  Both changes
of case therefore work block by block.  Every character becomes at least one
character, and a character without case stays where it is and comes from
nowhere else.

Lower case also looks around a capital sigma.  Blanks at the ends of a text have
no part in that, so that a change of case and trimming may trade places.
-/

namespace PathExpr.Text

/-! ## Tables -/

/-- No code of the range is moved by the table. -/
def unmoved (runs : List CaseRun) (expansions : List (Nat × List Nat)) (range : Nat × Nat) : Bool :=
  runs.all (fun run => run.last < range.1 || range.2 < run.first) &&
    expansions.all fun entry => entry.1 < range.1 || range.2 < entry.1

/-- No code of the range is what the table moves a code to. -/
def unreached (runs : List CaseRun) (expansions : List (Nat × List Nat)) (range : Nat × Nat) :
    Bool :=
  range.1 != 0 &&
    runs.all (fun run =>
      run.last + run.shift.toNat < range.1 + (-run.shift).toNat ||
        range.2 + (-run.shift).toNat < run.first + run.shift.toNat) &&
    expansions.all fun entry => entry.2.all fun code => code < range.1 || range.2 < code

theorem eq_of_ofNat_eq {code : Nat} {c : Char} (filled : c.toNat ≠ 0)
    (same : c = Char.ofNat code) : c.toNat = code := by
  subst same
  by_cases valid : code.isValidChar
  · rw [Char.ofNat, dif_pos valid]
    rfl
  · rw [Char.ofNat, dif_neg valid] at filled
    exact (filled rfl).elim

section Ranges

variable {runs : List CaseRun} {expansions : List (Nat × List Nat)} {range : Nat × Nat}
variable {c : Char} (low : range.1 ≤ c.toNat) (high : c.toNat ≤ range.2)

include low high

theorem mapCase_of_unmoved (far : unmoved runs expansions range = true) :
    mapCase runs expansions c = [c] := by
  simp only [unmoved, Bool.and_eq_true, Bool.or_eq_true, List.all_eq_true,
    decide_eq_true_eq] at far
  rcases far with ⟨farRuns, farEntries⟩
  have noEntry : expansions.lookup c.toNat = none := by
    rw [List.lookup_eq_none_iff]
    intro entry member
    have outside := farEntries entry member
    have different : c.toNat ≠ entry.1 := by omega
    simpa using different
  have noRun : (runs.find? fun run => run.holds c.toNat) = none := by
    rw [List.find?_eq_none]
    intro run member holds
    have outside := farRuns run member
    simp only [CaseRun.holds, Bool.and_eq_true, decide_eq_true_eq] at holds
    omega
  simp [mapCase, noEntry, noRun]

/-- What the table does not reach comes only from itself. -/
theorem eq_of_mem_mapCase (far : unreached runs expansions range = true) {source : Char}
    (member : c ∈ mapCase runs expansions source) : source = c := by
  simp only [unreached, Bool.and_eq_true, Bool.or_eq_true, List.all_eq_true, decide_eq_true_eq,
    bne_iff_ne, ne_eq] at far
  rcases far with ⟨⟨positive, farRuns⟩, farEntries⟩
  have filled : c.toNat ≠ 0 := by omega
  unfold mapCase at member
  split at member
  · next codes found =>
    rcases List.mem_map.mp member with ⟨code, inside, same⟩
    have exactly := eq_of_ofNat_eq filled same.symm
    have entry : (source.toNat, codes) ∈ expansions := by
      rcases List.lookup_eq_some_iff.mp found with ⟨before, after, whole, -⟩
      simp [whole]
    have outside := farEntries _ entry code inside
    omega
  · split at member
    · next run found =>
      have exactly := eq_of_ofNat_eq filled (List.mem_singleton.mp member)
      have holds := List.find?_some found
      have outside := farRuns run (List.mem_of_find?_eq_some found)
      simp only [CaseRun.holds, Bool.and_eq_true, decide_eq_true_eq] at holds
      omega
    · exact (List.mem_singleton.mp member).symm

end Ranges

/-! ## Characters without case -/

/-- Ranges of codes without case that hold all blanks and all marks of expressions. -/
def fixedRanges : List (Nat × Nat) :=
  [(0x9, 0x3f), (0x85, 0x85), (0xa0, 0xa0), (0x1680, 0x1680), (0x2000, 0x205f), (0x3000, 0x3000),
    (0xff1a, 0xff1f)]

/-- A character that no folding touches; a dash is folded to an underscore. -/
def Fixed (c : Char) : Prop :=
  inRanges fixedRanges c.toNat = true ∧ c ≠ '-'

instance (c : Char) : Decidable (Fixed c) :=
  inferInstanceAs (Decidable (_ ∧ _))

theorem fixed_of_isBlank {c : Char} (blank : isBlank c = true) : Fixed c := by
  constructor
  · simp only [isBlank, Bool.or_eq_true, Bool.and_eq_true, decide_eq_true_eq,
      beq_iff_eq] at blank
    simp only [inRanges, fixedRanges, List.any_cons, List.any_nil, Bool.or_eq_true,
      Bool.and_eq_true, decide_eq_true_eq, Bool.or_false]
    omega
  · rintro rfl
    cases blank

theorem unmoved_fixedRanges :
    ∀ range ∈ fixedRanges, unmoved upperRuns upperExpansions range = true ∧
      unmoved lowerRuns lowerExpansions range = true := by
  decide +kernel

theorem unreached_fixedRanges :
    ∀ range ∈ fixedRanges, unreached upperRuns upperExpansions range = true ∧
      unreached lowerRuns lowerExpansions range = true := by
  decide +kernel

theorem Fixed.exists_range {c : Char} (fixed : Fixed c) :
    ∃ range ∈ fixedRanges, range.1 ≤ c.toNat ∧ c.toNat ≤ range.2 := by
  simpa [inRanges] using fixed.1

theorem Fixed.upperChar {c : Char} (fixed : Fixed c) : upperChar c = [c] := by
  rcases fixed.exists_range with ⟨range, member, low, high⟩
  exact mapCase_of_unmoved low high (unmoved_fixedRanges range member).1

theorem Fixed.lowerChar {c : Char} (fixed : Fixed c) : lowerChar c = [c] := by
  rcases fixed.exists_range with ⟨range, member, low, high⟩
  exact mapCase_of_unmoved low high (unmoved_fixedRanges range member).2

theorem Fixed.eq_of_mem_upperChar {c source : Char} (fixed : Fixed c)
    (member : c ∈ Text.upperChar source) : source = c := by
  rcases fixed.exists_range with ⟨range, inside, low, high⟩
  exact eq_of_mem_mapCase low high (unreached_fixedRanges range inside).1 member

theorem Fixed.eq_of_mem_lowerChar {c source : Char} (fixed : Fixed c)
    (member : c ∈ Text.lowerChar source) : source = c := by
  rcases fixed.exists_range with ⟨range, inside, low, high⟩
  exact eq_of_mem_mapCase low high (unreached_fixedRanges range inside).2 member

theorem mapCase_ne_nil {runs : List CaseRun} {expansions : List (Nat × List Nat)}
    (filled : ∀ entry ∈ expansions, entry.2 ≠ []) (c : Char) : mapCase runs expansions c ≠ [] := by
  unfold mapCase
  split
  · next codes found =>
    rcases List.lookup_eq_some_iff.mp found with ⟨before, after, whole, -⟩
    have nonempty := filled (c.toNat, codes) (by simp [whole])
    simpa using nonempty
  · split <;> simp

theorem upperChar_ne_nil (c : Char) : upperChar c ≠ [] :=
  mapCase_ne_nil (by decide) c

theorem lowerChar_ne_nil (c : Char) : lowerChar c ≠ [] :=
  mapCase_ne_nil (by decide) c

/-- The codes of the small letters of the English alphabet. -/
def smallLetters : Nat × Nat := (0x61, 0x7a)

theorem upperChar_of_small :
    ∀ i < 26, Char.ofNat (0x61 + i) ∉ upperChar (Char.ofNat (0x61 + i)) := by
  decide +kernel

/-- No small letter stands in an upper case. -/
theorem not_mem_upperChar {c : Char} (low : smallLetters.1 ≤ c.toNat)
    (high : c.toNat ≤ smallLetters.2) (source : Char) : c ∉ upperChar source := by
  intro member
  have same : source = c :=
    eq_of_mem_mapCase low high (show unreached upperRuns upperExpansions smallLetters = true by
      decide +kernel) member
  subst same
  simp only [smallLetters] at low high
  have letter := upperChar_of_small (source.toNat - 0x61) (by omega)
  rw [show 0x61 + (source.toNat - 0x61) = source.toNat by omega, Char.ofNat_toNat] at letter
  exact letter member

/-! ## Block by block -/

/--
The second list has a block of characters for every character of the first one,
and fixed characters stand in both lists at the same places.
-/
inductive Recased : List Char → List Char → Prop where
  | nil : Recased [] []
  | cons {c : Char} {block cs ds : List Char} (filled : block ≠ [])
      (kept : Fixed c → block = [c]) (fresh : ∀ d ∈ block, Fixed d → d = c)
      (rest : Recased cs ds) : Recased (c :: cs) (block ++ ds)

namespace Recased

variable {cs ds : List Char}

theorem eq_nil_iff (recased : Recased cs ds) : ds = [] ↔ cs = [] := by
  cases recased with
  | nil => simp
  | cons filled kept fresh rest => simp [filled]

theorem mem_iff (recased : Recased cs ds) {d : Char} (fixed : Fixed d) : d ∈ ds ↔ d ∈ cs := by
  induction recased with
  | nil => rfl
  | @cons c block cs ds filled kept fresh rest ih =>
      rw [List.mem_append, List.mem_cons, ih]
      constructor
      · rintro (inside | behind)
        · exact Or.inl (fresh d inside fixed)
        · exact Or.inr behind
      · rintro (rfl | behind)
        · exact Or.inl (by simp [kept fixed])
        · exact Or.inr behind

/-- A change of case moves no character without case to the front. -/
theorem head?_eq_iff (recased : Recased cs ds) {c : Char}
    (fixed : Fixed c) : ds.head? = some c ↔ cs.head? = some c := by
  cases recased with
  | nil => rfl
  | @cons first block cs ds filled kept fresh rest =>
      obtain ⟨d, others, rfl⟩ := List.exists_cons_of_ne_nil filled
      simp only [List.cons_append, List.head?_cons, Option.some.injEq]
      constructor
      · rintro rfl
        exact (fresh d List.mem_cons_self fixed).symm
      · rintro rfl
        exact (List.cons.inj (kept fixed)).1

/-- The ends of a block of a character that is not blank are not blank. -/
theorem not_blank_of_mem {c : Char} {block : List Char} (dark : isBlank c = false)
    (fresh : ∀ d ∈ block, Fixed d → d = c) : ∀ d ∈ block, isBlank d = false := by
  intro d member
  cases blank : isBlank d with
  | false => rfl
  | true =>
      have same := fresh d member (fixed_of_isBlank blank)
      rw [same, dark] at blank
      cases blank

theorem isTrimmed (recased : Recased cs ds) (trimmed : IsTrimmed cs) : IsTrimmed ds := by
  constructor
  · cases recased with
    | nil => simp
    | @cons c block cs ds filled kept fresh rest =>
        rcases List.exists_cons_of_ne_nil filled with ⟨d, others, rfl⟩
        have dark := trimmed.head c rfl
        simpa using not_blank_of_mem dark fresh d List.mem_cons_self
  · have last := trimmed.last
    clear trimmed
    induction recased with
    | nil => simp
    | @cons c block cs ds filled kept fresh rest ih =>
        cases cs with
        | nil =>
            obtain rfl : ds = [] := rest.eq_nil_iff.mpr rfl
            have dark := last c rfl
            intro d final
            rw [List.append_nil] at final
            exact not_blank_of_mem dark fresh d (List.mem_of_getLast? final)
        | cons next others =>
            have more : ds ≠ [] := fun none => by cases rest.eq_nil_iff.mp none
            rw [List.getLast?_append_of_ne_nil _ more]
            exact ih fun d final => last d (by simpa [List.getLast?_cons_cons] using final)

end Recased

/-- A change of characters, each on its own, leaves fixed ones alone. -/
theorem recased_flatMap {image : Char → List Char} (filled : ∀ c, image c ≠ [])
    (kept : ∀ c, Fixed c → image c = [c]) (fresh : ∀ c, ∀ d ∈ image c, Fixed d → d = c)
    (cs : List Char) : Recased cs (cs.flatMap image) := by
  induction cs with
  | nil => exact .nil
  | cons c rest ih => exact .cons (filled c) (kept c) (fresh c) ih

theorem flatMap_of_allBlank {image : Char → List Char} (kept : ∀ c, Fixed c → image c = [c])
    {cs : List Char} (blank : AllBlank cs) : cs.flatMap image = cs := by
  induction cs with
  | nil => rfl
  | cons c rest ih =>
      have here := kept c (fixed_of_isBlank (blank c List.mem_cons_self))
      have behind := ih fun d member => blank d (List.mem_cons_of_mem _ member)
      rw [List.flatMap_cons, here, behind]
      rfl

/-! ## Lower case -/

/-- The lower case of a character that stands between `before`, nearest first, and `rest`. -/
def lowerAt (before : List Char) (c : Char) (rest : List Char) : List Char :=
  if c = 'Σ' then if casedNext before && !casedNext rest then ['ς'] else ['σ']
  else lowerChar c

theorem lowerFrom_cons (before : List Char) (c : Char) (rest : List Char) :
    lowerFrom before (c :: rest) = lowerAt before c rest ++ lowerFrom (c :: before) rest := by
  rfl

theorem lowerAt_ne_nil (before : List Char) (c : Char) (rest : List Char) :
    lowerAt before c rest ≠ [] := by
  unfold lowerAt
  split
  · split <;> simp
  · exact lowerChar_ne_nil c

theorem lowerAt_of_fixed (before : List Char) {c : Char} (fixed : Fixed c) (rest : List Char) :
    lowerAt before c rest = [c] := by
  have different : c ≠ 'Σ' := by
    rintro rfl
    revert fixed
    decide
  simp [lowerAt, different, fixed.lowerChar]

/-- A fixed character comes into a lower case only from itself. -/
theorem eq_of_mem_lowerAt {before : List Char} {c d : Char} {rest : List Char}
    (member : d ∈ lowerAt before c rest) (fixed : Fixed d) : d = c := by
  unfold lowerAt at member
  split at member
  · -- Neither form of the small sigma is a fixed character.
    have small : d = 'ς' ∨ d = 'σ' := by
      split at member
      · exact Or.inl (List.mem_singleton.mp member)
      · exact Or.inr (List.mem_singleton.mp member)
    rcases small with rfl | rfl <;> exact absurd fixed (by decide)
  · exact (fixed.eq_of_mem_lowerChar member).symm

/-- The lower case of a text keeps its fixed characters where they are. -/
theorem recased_lowerFrom (before cs : List Char) : Recased cs (lowerFrom before cs) := by
  induction cs generalizing before with
  | nil => exact .nil
  | cons c rest ih =>
      rw [lowerFrom_cons]
      have kept : Fixed c → lowerAt before c rest = [c] := by
        intro fixed
        exact lowerAt_of_fixed before fixed rest
      have fresh : ∀ d ∈ lowerAt before c rest, Fixed d → d = c := by
        intro d member fixed
        exact eq_of_mem_lowerAt member fixed
      exact .cons (lowerAt_ne_nil before c rest) kept fresh (ih (c :: before))

/-- The ranges of the codes of blanks. -/
def blankRanges : List (Nat × Nat) :=
  [(0x9, 0xd), (0x1c, 0x20), (0x85, 0x85), (0xa0, 0xa0), (0x1680, 0x1680), (0x2000, 0x200a),
    (0x2028, 0x2029), (0x202f, 0x202f), (0x205f, 0x205f), (0x3000, 0x3000)]

/-- No blank counts for the cases around it. -/
theorem blankRanges_apart :
    ∀ range ∈ blankRanges, ∀ other ∈ caseIgnorableRanges ++ casedRanges,
      other.2 < range.1 ∨ range.2 < other.1 := by
  decide +kernel

theorem not_inRanges_of_isBlank {c : Char} (blank : isBlank c = true) {ranges : List (Nat × Nat)}
    (known : ∀ other ∈ ranges, other ∈ caseIgnorableRanges ++ casedRanges) :
    inRanges ranges c.toNat = false := by
  have inside : ∃ range ∈ blankRanges, range.1 ≤ c.toNat ∧ c.toNat ≤ range.2 := by
    simp only [isBlank, Bool.or_eq_true, Bool.and_eq_true, decide_eq_true_eq,
      beq_iff_eq] at blank
    simp only [blankRanges, List.mem_cons, List.not_mem_nil, or_false, exists_eq_or_imp,
      exists_eq_left]
    omega
  rcases inside with ⟨range, member, low, high⟩
  rw [inRanges, List.any_eq_false]
  intro other present
  have outside := blankRanges_apart range member other (known other present)
  simp only [Bool.and_eq_true, decide_eq_true_eq]
  omega

theorem not_ignorable_of_isBlank {c : Char} (blank : isBlank c = true) :
    inRanges caseIgnorableRanges c.toNat = false :=
  not_inRanges_of_isBlank blank fun _ member => List.mem_append_left _ member

theorem not_cased_of_isBlank {c : Char} (blank : isBlank c = true) :
    inRanges casedRanges c.toNat = false :=
  not_inRanges_of_isBlank blank fun _ member => List.mem_append_right _ member

/-- Blanks at the far end tell a capital sigma nothing. -/
theorem casedNext_append (cs : List Char) {blanks : List Char} (blank : AllBlank blanks) :
    casedNext (cs ++ blanks) = casedNext cs := by
  induction cs with
  | nil =>
      cases blanks with
      | nil => rfl
      | cons b others =>
          have here := blank b List.mem_cons_self
          simp [casedNext, not_ignorable_of_isBlank here, not_cased_of_isBlank here]
  | cons c rest ih =>
      cases ignorable : inRanges caseIgnorableRanges c.toNat with
      | true => simpa [casedNext, ignorable] using ih
      | false => simp [casedNext, ignorable]

/-- Blanks behind the text, on either side, change the lower case of no character in it. -/
theorem lowerAt_append (before : List Char) (c : Char) (rest : List Char) {blanks : List Char}
    (blank : AllBlank blanks) :
    lowerAt before c (rest ++ blanks) = lowerAt before c rest ∧
      lowerAt (before ++ blanks) c rest = lowerAt before c rest := by
  simp [lowerAt, casedNext_append _ blank]

/-- What stands before the text may end in blanks. -/
theorem lowerFrom_append_before (before : List Char) {blanks : List Char}
    (blank : AllBlank blanks) (cs : List Char) :
    lowerFrom (before ++ blanks) cs = lowerFrom before cs := by
  induction cs generalizing before with
  | nil => rfl
  | cons c rest ih =>
      rw [lowerFrom_cons, lowerFrom_cons, (lowerAt_append before c rest blank).2,
        ← List.cons_append, ih (c :: before)]

/-- Blanks in front of a text are their own lower case, and the text goes on behind them. -/
theorem lowerFrom_blanks_append (before : List Char) {blanks : List Char}
    (blank : AllBlank blanks) (cs : List Char) :
    lowerFrom before (blanks ++ cs) = blanks ++ lowerFrom (blanks.reverse ++ before) cs := by
  induction blanks generalizing before with
  | nil => rfl
  | cons b others ih =>
      have here := fixed_of_isBlank (blank b List.mem_cons_self)
      have behind := ih (b :: before) fun c member => blank c (List.mem_cons_of_mem _ member)
      rw [List.cons_append, lowerFrom_cons, lowerAt_of_fixed before here, behind]
      simp

theorem lowerFrom_append_blanks (before cs : List Char) {blanks : List Char}
    (blank : AllBlank blanks) :
    lowerFrom before (cs ++ blanks) = lowerFrom before cs ++ blanks := by
  induction cs generalizing before with
  | nil =>
      have alone := lowerFrom_blanks_append before blank []
      simpa [lowerFrom] using alone
  | cons c rest ih =>
      rw [List.cons_append, lowerFrom_cons, lowerFrom_cons, (lowerAt_append before c rest blank).1,
        ih (c :: before), List.append_assoc]

/-- Blanks around a text have no part in its lower case. -/
theorem lowerFrom_surround {lead tail : List Char} (leadBlank : AllBlank lead)
    (core : List Char) (tailBlank : AllBlank tail) :
    lowerFrom [] (lead ++ core ++ tail) = lead ++ lowerFrom [] core ++ tail := by
  have leadReversed : AllBlank lead.reverse := fun c member =>
    leadBlank c (List.mem_reverse.mp member)
  have context := lowerFrom_append_before [] leadReversed core
  rw [lowerFrom_append_blanks _ _ tailBlank, lowerFrom_blanks_append _ leadBlank,
    List.append_nil]
  rw [List.nil_append] at context
  rw [context]

end PathExpr.Text

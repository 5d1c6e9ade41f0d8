import PathExpr.Format.Toml.Scalar
import PathExpr.Format.Toml.Writer
import PathExpr.Proofs.Number.Digits
import PathExpr.Proofs.Text.Pieces

/-!
# Escapes between double quotes

The escapes of a basic string are those of a text in a message, with one
exception: two hexadecimal digits are no escape of TOML, and the writer replaces
their mark wherever it finds it.  A text without that mark is read back as it is.
-/

namespace PathExpr.Format.Toml

open PathExpr.Number PathExpr.Text

/-- The characters of a text with their escapes, as a message shows them between double quotes. -/
def escaped (cs : List Char) : List Char :=
  cs.flatMap (quotedChar '"')

theorem escaped_cons (c : Char) (cs : List Char) :
    escaped (c :: cs) = quotedChar '"' c ++ escaped cs :=
  List.flatMap_cons

/-! ## The spelling of a character -/

theorem not_isControl_of_isPrintable {c : Char} (printable : isPrintable c = true) :
    isControl c = false := by
  have small : ¬ c.toNat < 32 := by
    intro small
    rw [isPrintable, if_pos (by omega), decide_eq_true_eq] at printable
    omega
  have other : c.toNat ≠ 127 := by
    intro delete
    have inside : unprintableRanges.any (fun range => decide (range.1 ≤ c.toNat) &&
        decide (c.toNat ≤ range.2)) = true := by
      rw [List.any_eq_true, delete]
      exact ⟨(0x7f, 0xa0), List.mem_cons_of_mem _ List.mem_cons_self, rfl⟩
    simp only [isPrintable, inside] at printable
    rw [if_neg (by omega)] at printable
    cases printable
  simp [isControl, small, other]

/-- How a character is written between double quotes. -/
inductive Spelling : Char → List Char → Prop
  | letter {letter c : Char}
    (known : (letter, c) ∈ [('"', '"'), ('\\', '\\'), ('n', '\n'), ('r', '\r'), ('t', '\t')]) :
    Spelling c ['\\', letter]
  | itself {c : Char} (printable : isPrintable c = true) (noQuote : c ≠ '"')
    (noBackslash : c ≠ '\\') : Spelling c [c]
  | twoDigits {c : Char} (unprintable : isPrintable c = false) (small : c.toNat < 0x100)
    (noLetter : c ∉ ['\t', '\n', '\r']) : Spelling c ('\\' :: 'x' :: hexPadded 2 c.toNat)
  | manyDigits {c letter : Char} {width : Nat} (unprintable : isPrintable c = false)
    (known : (letter, width) ∈ [('u', 4), ('U', 8)]) (large : 0x100 ≤ c.toNat)
    (small : c.toNat < 16 ^ width) : Spelling c ('\\' :: letter :: hexPadded width c.toNat)

theorem spelling_quotedChar (c : Char) : Spelling c (quotedChar '"' c) := by
  have valid := toNat_lt c
  unfold quotedChar
  split
  · next marked =>
    rw [Bool.or_eq_true, decide_eq_true_eq, decide_eq_true_eq] at marked
    rcases marked with rfl | rfl <;> exact .letter (by decide)
  · next unmarked =>
    rw [Bool.or_eq_true, decide_eq_true_eq, decide_eq_true_eq, not_or] at unmarked
    split
    · next feed => exact feed ▸ .letter (by decide)
    · next feed =>
      split
      · next back => exact back ▸ .letter (by decide)
      · next back =>
        split
        · next tab => exact tab ▸ .letter (by decide)
        · next tab =>
          split
          · next printable => exact .itself printable unmarked.1 unmarked.2
          · next unprintable =>
            rw [Bool.not_eq_true] at unprintable
            simp only [numberedEscape]
            split
            · next small => exact .twoDigits unprintable small (by simp [feed, back, tab])
            · next large =>
              split
              · next small =>
                exact .manyDigits unprintable (by decide) (Nat.not_lt.mp large) small
              · exact .manyDigits unprintable (by decide) (Nat.not_lt.mp large) (by omega)

/-! ## The text between the quotes -/

/-- The escape of a character holds the character, letters of escapes and digits. -/
theorem eq_of_mem_quotedChar {mark c d : Char} (member : d ∈ quotedChar mark c) :
    d = c ∨ d ∈ ['\\', 'n', 'r', 't', 'x', 'u', 'U'] ∨ ∃ value < 16, d = hexDigit value := by
  have digits : ∀ width n, d ∈ hexPadded width n → ∃ value < 16, d = hexDigit value :=
    fun width n => eq_hexDigit_of_mem_hexPadded
  unfold quotedChar numberedEscape at member
  have := digits 2 c.toNat
  have := digits 4 c.toNat
  have := digits 8 c.toNat
  grind

/-- No digit is a quote mark or a backslash. -/
theorem hexDigit_ne {d : Nat} (small : d < 16) : ∀ mark ∈ ['\'', '"', '\\'], hexDigit d ≠ mark := by
  intro mark known same
  have value := digitValue?_hexDigit d small
  rw [same] at value
  simp only [List.mem_cons, List.not_mem_nil, or_false] at known
  rcases known with rfl | rfl | rfl <;> cases value

/-- No quote mark comes from any other character than itself. -/
theorem not_mem_quotedChar {mark c quote : Char} (isQuote : quote = '\'' ∨ quote = '"')
    (other : quote ≠ c) : quote ∉ quotedChar mark c := by
  intro member
  rcases eq_of_mem_quotedChar member with same | letter | ⟨value, small, digit⟩
  · exact other same
  · rcases isQuote with rfl | rfl <;> revert letter <;> decide
  · rcases isQuote with rfl | rfl
    · exact hexDigit_ne small '\'' (by simp) digit.symm
    · exact hexDigit_ne small '"' (by simp) digit.symm

/-- Every character leaves something behind when it is written. -/
theorem quotedChar_ne_nil (mark c : Char) : quotedChar mark c ≠ [] := by
  unfold quotedChar numberedEscape
  grind

theorem head?_quotedChar_append {mark c quote : Char} (isQuote : quote = '\'' ∨ quote = '"')
    (other : quote ≠ c) (rest : List Char) : (quotedChar mark c ++ rest).head? ≠ some quote := by
  obtain ⟨d, others, shape⟩ := List.exists_cons_of_ne_nil (quotedChar_ne_nil mark c)
  rw [shape]
  intro head
  have member : quote ∈ quotedChar mark c := by
    rw [shape, ← Option.some.inj head]
    exact List.mem_cons_self
  exact not_mem_quotedChar isQuote other member

theorem bareSingleQuotes_append {cs rest : List Char} (none : '\'' ∉ cs)
    (notNext : rest.head? ≠ some '\'') :
    bareSingleQuotes (cs ++ rest) = cs ++ bareSingleQuotes rest := by
  induction cs with
  | nil => rfl
  | cons c cs ih =>
      rw [List.mem_cons, not_or] at none
      obtain ⟨noQuote, noQuotes⟩ := none
      rw [List.cons_append, bareSingleQuotes, ih noQuotes]
      · rfl
      · intro after _ shape
        cases cs with
        | nil => exact notNext (by rw [List.nil_append] at shape; rw [shape]; rfl)
        | cons d cs => exact noQuotes (by rw [(List.cons.inj shape).1]; exact List.mem_cons_self)

theorem head?_flatMap_quotedChar (cs : List Char) :
    (cs.flatMap (quotedChar '\'')).head? ≠ some '\'' := by
  cases cs with
  | nil => exact fun same => by cases same
  | cons c cs =>
      rw [List.flatMap_cons]
      by_cases quote : c = '\''
      · subst quote
        exact fun same => by cases same
      · exact head?_quotedChar_append (Or.inl rfl) (Ne.symm quote) _

/-- A double quote with its backslash, and any other character as it is. -/
def withQuoteEscape (c : Char) : List Char :=
  if c = '"' then ['\\', '"'] else [c]

theorem flatMap_withQuoteEscape {cs : List Char} (none : '"' ∉ cs) :
    cs.flatMap withQuoteEscape = cs := by
  induction cs with
  | nil => rfl
  | cons c cs ih =>
      rw [List.mem_cons, not_or] at none
      rw [List.flatMap_cons, ih none.2, withQuoteEscape, if_neg (Ne.symm none.1)]
      rfl

theorem quotedChar_eq {mark other c : Char} (noMark : c ≠ mark) (noOther : c ≠ other) :
    quotedChar mark c = quotedChar other c := by
  unfold quotedChar
  rw [decide_eq_false noMark, decide_eq_false noOther]

/-- What stands between single quotes is turned into what stands between double quotes. -/
theorem flatMap_withQuoteEscape_bareSingleQuotes (cs : List Char) :
    (bareSingleQuotes (cs.flatMap (quotedChar '\''))).flatMap withQuoteEscape = escaped cs := by
  induction cs with
  | nil => rfl
  | cons c cs ih =>
      have next := head?_flatMap_quotedChar cs
      rw [escaped_cons, ← ih, List.flatMap_cons]
      by_cases single : c = '\''
      · subst single
        rfl
      · rw [bareSingleQuotes_append (not_mem_quotedChar (Or.inl rfl) (Ne.symm single)) next,
          List.flatMap_append]
        congr 1
        by_cases double : c = '"'
        · subst double
          rfl
        · rw [flatMap_withQuoteEscape (not_mem_quotedChar (Or.inr rfl) (Ne.symm double)),
            quotedChar_eq single double]

/-- The mark around a shown text is one of the two quotes. -/
theorem quoteMarkFor_eq (cs : List Char) : quoteMarkFor cs = '"' ∨ quoteMarkFor cs = '\'' := by
  unfold quoteMarkFor
  split
  · exact Or.inl rfl
  · exact Or.inr rfl

/-- Only what comes of the marks in the escaped text makes a basic string differ from it. -/
theorem basicBody_eq (s : String) :
    basicBody s =
      match splitChars ['\\', 'x'] 0 (escaped s.toList) with
      | [] => .ok []
      | [whole] => .ok whole
      | [[], _] => .error .escapeUnfinished
      | [] :: head :: rest => .ok (joinEscapes head rest)
      | head :: rest => .ok (joinEscapes head rest) := by
  let mark := quoteMarkFor s.toList
  have shown : (quoted s).toList = mark :: s.toList.flatMap (quotedChar mark) ++ [mark] :=
    String.toList_ofList
  have inner : (quoted s).toList.tail.dropLast = s.toList.flatMap (quotedChar mark) := by
    rw [shown, List.cons_append, List.tail_cons, List.dropLast_concat]
  have body : (if mark = '\'' then
      (bareSingleQuotes (s.toList.flatMap (quotedChar mark))).flatMap withQuoteEscape
    else s.toList.flatMap (quotedChar mark)) = escaped s.toList := by
    split
    · next single =>
      rw [single]
      exact flatMap_withQuoteEscape_bareSingleQuotes s.toList
    · next single =>
      have double : mark = '"' := (quoteMarkFor_eq s.toList).resolve_right single
      rw [double]
      rfl
  have head : (quoted s).toList.head? = some '\'' ↔ mark = '\'' := by
    rw [shown]
    exact ⟨Option.some.inj, congrArg some⟩
  rw [basicBody]
  simp only [inner, head]
  rw [← body]
  rfl

theorem length_le_length_escaped (cs : List Char) : cs.length ≤ (escaped cs).length := by
  induction cs with
  | nil => exact Nat.le_refl 0
  | cons c cs ih =>
      have positive := List.length_pos_iff.mpr (quotedChar_ne_nil '"' c)
      rw [escaped_cons, List.length_append, List.length_cons]
      omega

/-! ## The mark of two digits -/

/-- The mark of a two-digit escape. -/
def shortMark : List Char :=
  ['\\', 'x']

theorem shortMark_infix_cons {c : Char} {cs : List Char} :
    shortMark <:+: c :: cs ↔ (c = '\\' ∧ cs.head? = some 'x') ∨ shortMark <:+: cs := by
  rw [List.infix_cons_iff, shortMark, List.cons_prefix_cons]
  cases cs with
  | nil => simp
  | cons d cs => simp [List.cons_prefix_cons, eq_comm]

/-- The character is written as two hexadecimal digits. -/
def IsTwoDigits (c : Char) : Prop :=
  c.toNat < 0x100 ∧ isPrintable c = false ∧ c ∉ ['\t', '\n', '\r']

/-- A text in whose escapes there is no mark of a two-digit escape. -/
structure IsWritable (cs : List Char) : Prop where
  noMark : ¬ shortMark <:+: cs
  noTwoDigits : ∀ c ∈ cs, ¬ IsTwoDigits c

/-- A text is writable character by character, with a look at the next one behind a backslash. -/
theorem isWritable_cons {c : Char} {cs : List Char} :
    IsWritable (c :: cs) ↔
      ¬ (c = '\\' ∧ cs.head? = some 'x') ∧ ¬ IsTwoDigits c ∧ IsWritable cs := by
  constructor
  · rintro ⟨noMark, noTwoDigits⟩
    rw [shortMark_infix_cons, not_or] at noMark
    obtain ⟨first, others⟩ := List.forall_mem_cons.mp noTwoDigits
    exact ⟨noMark.1, first, noMark.2, others⟩
  · rintro ⟨apart, first, noMark, others⟩
    constructor
    · intro found
      exact (shortMark_infix_cons.mp found).elim apart noMark
    · exact List.forall_mem_cons.mpr ⟨first, others⟩

theorem shortMark_infix_append {cs : List Char} (none : '\\' ∉ cs) (rest : List Char) :
    shortMark <:+: cs ++ rest ↔ shortMark <:+: rest := by
  induction cs with
  | nil => rfl
  | cons c cs ih =>
      rw [List.mem_cons, not_or] at none
      rw [List.cons_append, shortMark_infix_cons, ih none.2]
      exact or_iff_right fun first => none.1 first.1.symm

theorem Spelling.starts {c : Char} {spelled : List Char} (spelling : Spelling c spelled) :
    spelled = [c] ∨ ∃ others, spelled = '\\' :: others := by
  cases spelling with
  | letter => exact Or.inr ⟨_, rfl⟩
  | itself => exact Or.inl rfl
  | twoDigits => exact Or.inr ⟨_, rfl⟩
  | manyDigits => exact Or.inr ⟨_, rfl⟩

theorem head?_escaped_eq_x (cs : List Char) :
    (escaped cs).head? = some 'x' ↔ cs.head? = some 'x' := by
  cases cs with
  | nil => rfl
  | cons c cs =>
      by_cases x : c = 'x'
      · subst x
        rfl
      · have other : ¬ (c :: cs).head? = some 'x' := fun head => x (Option.some.inj head)
        rw [escaped_cons]
        rcases (spelling_quotedChar c).starts with itself | ⟨others, escape⟩
        · rw [itself]
          rfl
        · rw [escape]
          constructor
          · intro head
            cases head
          · intro head
            exact absurd head other

theorem shortMark_infix_escaped_cons (c : Char) (cs : List Char) :
    shortMark <:+: escaped (c :: cs) ↔
      (c = '\\' ∧ cs.head? = some 'x') ∨ IsTwoDigits c ∨ shortMark <:+: escaped cs := by
  have spelling := spelling_quotedChar c
  rw [escaped_cons]
  generalize quotedChar '"' c = spelled at spelling
  cases spelling with
  | letter known =>
      have noDigits : ¬ IsTwoDigits c := fun ⟨_, unprintable, noLetter⟩ => by
        revert unprintable noLetter
        simp only [List.mem_cons, Prod.mk.injEq, List.not_mem_nil, or_false] at known
        rcases known with ⟨-, rfl⟩ | ⟨-, rfl⟩ | ⟨-, rfl⟩ | ⟨-, rfl⟩ | ⟨-, rfl⟩ <;> decide
      simp only [noDigits, false_or, List.cons_append, List.nil_append, shortMark_infix_cons,
        ← head?_escaped_eq_x cs]
      simp only [List.mem_cons, Prod.mk.injEq, List.not_mem_nil, or_false] at known
      rcases known with ⟨rfl, rfl⟩ | ⟨rfl, rfl⟩ | ⟨rfl, rfl⟩ | ⟨rfl, rfl⟩ | ⟨rfl, rfl⟩ <;> simp
  | itself printable noQuote noBackslash =>
      have noDigits : ¬ IsTwoDigits c := fun digits => by
        cases printable.symm.trans digits.2.1
      rw [shortMark_infix_append (by simpa using Ne.symm noBackslash)]
      simp [noBackslash, noDigits]
  | twoDigits unprintable small noLetter =>
      have digits : IsTwoDigits c := ⟨small, unprintable, noLetter⟩
      constructor
      · intro _
        exact Or.inr (Or.inl digits)
      · intro _
        exact ⟨[], hexPadded 2 c.toNat ++ escaped cs, rfl⟩
  | @manyDigits _ letter width unprintable known large small =>
      have noDigits : ¬ IsTwoDigits c := fun digits => Nat.not_lt.mpr large digits.1
      have noBackslash : c ≠ '\\' := by
        rintro rfl
        cases unprintable
      have noEscape : '\\' ∉ letter :: hexPadded width c.toNat := by
        rw [List.mem_cons, not_or]
        refine ⟨?_, fun member => ?_⟩
        · rintro rfl
          simp at known
        · obtain ⟨value, small, digit⟩ := eq_hexDigit_of_mem_hexPadded member
          exact hexDigit_ne small '\\' (by simp) digit.symm
      have noX : letter ≠ 'x' := by
        rintro rfl
        simp at known
      rw [List.cons_append, shortMark_infix_cons, shortMark_infix_append noEscape]
      simp [noDigits, noBackslash, noX]

/-- The mark of a two-digit escape is met where the text is not writable. -/
theorem shortMark_infix_escaped_iff (cs : List Char) :
    shortMark <:+: escaped cs ↔ ¬ IsWritable cs := by
  induction cs with
  | nil =>
      have absent : ¬ shortMark <:+: ([] : List Char) := fun found => by
        cases List.infix_nil.mp found
      have writable : IsWritable [] := ⟨absent, List.forall_mem_nil _⟩
      constructor
      · intro found
        exact absurd found absent
      · intro blocked
        exact absurd writable blocked
  | cons c cs ih =>
      rw [shortMark_infix_escaped_cons, isWritable_cons, ih]
      grind

/-! ## Reading -/

/-- A character that needs no escape is read as itself. -/
theorem basicText_plain {c : Char} (noQuote : c ≠ '"') (noBackslash : c ≠ '\\')
    (noControl : isControl c = false) (fuel : Nat) (rest : List Char) :
    basicText false (fuel + 1) (c :: rest) =
      (basicText false fuel rest).map fun found => (c :: found.1, found.2) := by
  rw [basicText]
  · rw [noControl]
    simp only [Bool.false_and, Bool.false_eq_true, if_false]
    cases basicText false fuel rest <;> rfl
  · exact noQuote
  · exact noBackslash

/-- An escape is read as the character that it stands for. -/
theorem basicText_escape {c : Char} {before after : List Char}
    (known : escape false before = .ok ([c], after)) (fuel : Nat) :
    basicText false (fuel + 1) ('\\' :: before) =
      (basicText false fuel after).map fun found => (c :: found.1, found.2) := by
  rw [basicText, known]
  cases read : basicText false fuel after <;> simp [bind, Except.bind, read, Except.map]
  rfl

theorem escape_letter {letter c : Char} (known : escapeChar? letter = some c)
    (noNumber : letter ≠ 'u' ∧ letter ≠ 'U') (rest : List Char) :
    escape false (letter :: rest) = .ok ([c], rest) := by
  rw [escape]
  simp [noNumber, known, require, bind, Except.bind, pure, Except.pure]

theorem escape_digits {letter : Char} {width : Nat}
    (letters : (letter, width) ∈ [('u', 4), ('U', 8)]) (rest : List Char) :
    escape false (letter :: rest) =
      (hexChar width rest).map fun found => ([found.1], found.2) := by
  simp only [List.mem_cons, Prod.mk.injEq, List.not_mem_nil, or_false] at letters
  rcases letters with ⟨rfl, rfl⟩ | ⟨rfl, rfl⟩
  · rw [escape]
    cases hexChar 4 rest <;> rfl
  · rw [escape]
    cases hexChar 8 rest <;> rfl

/-- The digits that are written for a character are read as its number. -/
theorem hexChar_hexPadded {width : Nat} {c : Char} (small : c.toNat < 16 ^ width)
    (rest : List Char) :
    hexChar width (hexPadded width c.toNat ++ rest) = .ok (c, rest) := by
  have digits : (hexPadded width c.toNat ++ rest).take width = hexPadded width c.toNat :=
    List.take_left' (length_hexPadded width c.toNat)
  have after : (hexPadded width c.toNat ++ rest).drop width = rest :=
    List.drop_left' (length_hexPadded width c.toNat)
  have all : (hexPadded width c.toNat).all (isDigitIn 16) = true :=
    List.all_eq_true.mpr fun digit member => isDigitIn_of_mem_hexPadded member
  rw [hexChar, digits, after, length_hexPadded, all, ofDigits_hexPadded, Nat.mod_eq_of_lt small]
  have valid : c.toNat.isValidChar := c.valid
  simp [valid, Char.ofNat_toNat]

/-- A writable text is read back from behind its opening quote. -/
theorem basicText_escaped {cs : List Char} (digits : ∀ c ∈ cs, ¬ IsTwoDigits c) {fuel : Nat}
    (enough : cs.length < fuel) (rest : List Char) :
    basicText false fuel (escaped cs ++ '"' :: rest) = .ok (cs, rest) := by
  induction cs generalizing fuel with
  | nil =>
      obtain ⟨fuel, rfl⟩ := Nat.exists_eq_add_of_lt enough
      rfl
  | cons c cs ih =>
      obtain ⟨first, others⟩ := List.forall_mem_cons.mp digits
      rw [List.length_cons] at enough
      obtain ⟨fuel, rfl⟩ : ∃ n, fuel = n + 1 := ⟨fuel - 1, by omega⟩
      have behind := @ih others fuel (by omega)
      have spelling := spelling_quotedChar c
      rw [escaped_cons, List.append_assoc]
      generalize quotedChar '"' c = spelled at spelling
      cases spelling with
      | @letter letter _ known =>
          have letters : escapeChar? letter = some c ∧ letter ≠ 'u' ∧ letter ≠ 'U' := by
            simp only [List.mem_cons, Prod.mk.injEq, List.not_mem_nil, or_false] at known
            rcases known with ⟨rfl, rfl⟩ | ⟨rfl, rfl⟩ | ⟨rfl, rfl⟩ | ⟨rfl, rfl⟩ | ⟨rfl, rfl⟩ <;>
              decide
          have read := basicText_escape (escape_letter letters.1 letters.2
            (escaped cs ++ '"' :: rest)) fuel
          rw [behind] at read
          exact read
      | itself printable noQuote noBackslash =>
          have read := basicText_plain noQuote noBackslash (not_isControl_of_isPrintable printable)
            fuel (escaped cs ++ '"' :: rest)
          rw [behind] at read
          exact read
      | twoDigits unprintable small noLetter => exact absurd ⟨small, unprintable, noLetter⟩ first
      | @manyDigits _ letter width unprintable known large small =>
          have number :=
            escape_digits known (hexPadded width c.toNat ++ (escaped cs ++ '"' :: rest))
          rw [hexChar_hexPadded small] at number
          have read := basicText_escape number fuel
          rw [behind] at read
          exact read

end PathExpr.Format.Toml

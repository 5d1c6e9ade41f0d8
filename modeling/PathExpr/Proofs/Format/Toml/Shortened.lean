import PathExpr.Proofs.Format.Reading
import PathExpr.Proofs.Format.Toml.Escapes

/-!
# Texts that lose their escapes

Where the writer replaces the mark of a two-digit escape, a backslash is lost, and
further ones are lost in front of it.  Nothing that is read between the quotes can
make up for that: the escapes of what is read weigh no more than what is read, and
this weighs less than the escapes of the text that was written.
-/

namespace PathExpr.Format.Toml

open PathExpr.Number PathExpr.Text

/-! ## The weight of characters -/

/--
Backslashes count, and the digit that makes a backslash of the four digits behind
what is left of a mark.
-/
def weighs (c : Char) : Bool :=
  c == '\\' || c == '5'

/-- The weight of characters. -/
def weight (cs : List Char) : Nat :=
  cs.countP weighs

@[simp]
theorem weight_nil : weight [] = 0 :=
  rfl

@[simp]
theorem weight_append (cs others : List Char) : weight (cs ++ others) = weight cs + weight others :=
  List.countP_append

theorem weight_cons (c : Char) (cs : List Char) : weight (c :: cs) = weight [c] + weight cs :=
  weight_append [c] cs

theorem weight_singleton_le (c : Char) : weight [c] ≤ 1 :=
  List.countP_le_length

/-! ## Replacing the marks -/

/-- Two backslashes that become one lose weight, and nothing gains any. -/
theorem weight_mergeBackslashes_le (cs : List Char) : weight (mergeBackslashes cs) ≤ weight cs := by
  fun_induction mergeBackslashes cs with
  | case1 rest ih =>
      rw [weight_cons '\\' (mergeBackslashes rest), weight_cons '\\' ('\\' :: rest),
        weight_cons '\\' rest]
      omega
  | case2 c rest _ ih =>
      rw [weight_cons c (mergeBackslashes rest), weight_cons c rest]
      omega
  | case3 => exact Nat.le_refl 0

theorem forall_mem_mergeBackslashes {holds : Char → Prop} {cs : List Char}
    (all : ∀ c ∈ cs, holds c) : ∀ c ∈ mergeBackslashes cs, holds c := by
  fun_induction mergeBackslashes cs with
  | case1 rest ih =>
      obtain ⟨first, behind⟩ := List.forall_mem_cons.mp all
      exact List.forall_mem_cons.mpr ⟨first, ih (List.forall_mem_cons.mp behind).2⟩
  | case2 c rest _ ih =>
      obtain ⟨first, behind⟩ := List.forall_mem_cons.mp all
      exact List.forall_mem_cons.mpr ⟨first, ih behind⟩
  | case3 => exact all

theorem head?_mergeBackslashes (cs : List Char) : (mergeBackslashes cs).head? = cs.head? := by
  fun_induction mergeBackslashes cs with
  | case1 => rfl
  | case2 => rfl
  | case3 => rfl

/-- What is left of a mark. -/
def leftOfMark (cs : List Char) : List Char :=
  if keepsEscapeLetter cs then ['x'] else ['u', '0', '0']

theorem joinEscapes_cons (head piece : List Char) (rest : List (List Char)) :
    joinEscapes head (piece :: rest) =
      joinEscapes (mergeBackslashes head ++ leftOfMark (mergeBackslashes head) ++ piece) rest :=
  rfl

/-- A mark is replaced by a lone letter or by the beginning of four digits. -/
theorem leftOfMark_cases (cs : List Char) :
    leftOfMark cs = ['x'] ∨ leftOfMark cs = ['u', '0', '0'] := by
  unfold leftOfMark
  split
  · exact Or.inl rfl
  · exact Or.inr rfl

/-- What is left of a mark weighs nothing, as the backslash is gone. -/
theorem weight_leftOfMark (cs : List Char) : weight (leftOfMark cs) = 0 := by
  rcases leftOfMark_cases cs with left | left <;> rw [left] <;> rfl

/-- Putting the pieces between marks together again adds no weight. -/
theorem weight_joinEscapes_le (head : List Char) (pieces : List (List Char)) :
    weight (joinEscapes head pieces) ≤ weight head + weight pieces.flatten := by
  induction pieces generalizing head with
  | nil => exact Nat.le_refl _
  | cons piece pieces ih =>
      have joined := ih (mergeBackslashes head ++ leftOfMark (mergeBackslashes head) ++ piece)
      have merged := weight_mergeBackslashes_le head
      rw [weight_append, weight_append, weight_leftOfMark] at joined
      rw [joinEscapes_cons, List.flatten_cons, weight_append]
      omega

theorem forall_mem_joinEscapes {holds : Char → Prop} (left : ∀ c ∈ ['x', 'u', '0'], holds c)
    {head : List Char} {pieces : List (List Char)} (first : ∀ c ∈ head, holds c)
    (others : ∀ piece ∈ pieces, ∀ c ∈ piece, holds c) : ∀ c ∈ joinEscapes head pieces, holds c := by
  induction pieces generalizing head with
  | nil => exact first
  | cons piece pieces ih =>
      obtain ⟨next, behind⟩ := List.forall_mem_cons.mp others
      have merged := forall_mem_mergeBackslashes first
      have marks : ∀ c ∈ leftOfMark (mergeBackslashes head), holds c := by
        intro c member
        apply left
        rcases leftOfMark_cases (mergeBackslashes head) with same | same <;> rw [same] at member
        · rw [List.mem_singleton.mp member]
          exact List.mem_cons_self
        · exact List.mem_cons_of_mem _ (by simpa using member)
      have front := List.forall_mem_append.mpr ⟨merged, marks⟩
      rw [joinEscapes_cons]
      exact ih (List.forall_mem_append.mpr ⟨front, next⟩) behind

/-- Pieces that do not begin with a quote are not made to by being joined. -/
theorem head?_joinEscapes {head : List Char} (noQuote : head.head? ≠ some '"')
    (pieces : List (List Char)) : (joinEscapes head pieces).head? ≠ some '"' := by
  induction pieces generalizing head with
  | nil => exact noQuote
  | cons piece pieces ih =>
      rw [joinEscapes_cons]
      apply ih
      rw [← head?_mergeBackslashes] at noQuote
      cases merged : mergeBackslashes head with
      | nil =>
          rcases leftOfMark_cases [] with left | left <;> rw [left] <;>
            exact fun same => by cases same
      | cons c cs =>
          rw [merged] at noQuote
          exact noQuote

/-! ## The pieces of a text -/

/-- Each mark between the pieces weighs its backslash. -/
theorem weight_intercalate (head : List Char) (pieces : List (List Char)) :
    weight (shortMark.intercalate (head :: pieces)) =
      weight head + weight pieces.flatten + pieces.length := by
  induction pieces generalizing head with
  | nil => simp
  | cons piece pieces ih =>
      have mark : weight shortMark = 1 := rfl
      rw [List.intercalate_cons_cons, weight_append, weight_append, ih, List.flatten_cons,
        weight_append, List.length_cons, mark]
      omega

theorem subset_of_mem_splitChars {sep cs : List Char} {skip : Nat} :
    ∀ piece ∈ splitChars sep skip cs, piece ⊆ cs := by
  fun_induction splitChars sep skip cs with
  | case1 => simp
  | case2 skip c rest ih =>
      exact fun piece member => List.Subset.trans (ih piece member) (List.subset_cons_self c rest)
  | case3 c rest _ _ ih =>
      refine List.forall_mem_cons.mpr ⟨List.nil_subset _, fun piece member => ?_⟩
      exact List.Subset.trans (ih piece member) (List.subset_cons_self c rest)
  | case4 c rest _ ih =>
      obtain ⟨head, pieces, cut⟩ := List.exists_cons_of_ne_nil (splitChars_ne_nil sep 0 rest)
      rw [cut] at ih ⊢
      obtain ⟨first, others⟩ := List.forall_mem_cons.mp ih
      rw [List.modifyHead_cons]
      refine List.forall_mem_cons.mpr ⟨List.cons_subset_cons c first, fun piece member => ?_⟩
      exact List.Subset.trans (others piece member) (List.subset_cons_self c rest)

/-- What is written for a text without its two-digit escapes. -/
structure IsShortened (cs written : List Char) : Prop where
  lighter : weight written < weight (escaped cs)
  printable : ∀ c ∈ written, isPrintable c = true
  noQuote : written.head? ≠ some '"'

theorem isPrintable_of_mem_hexPadded {width n : Nat} :
    ∀ c ∈ hexPadded width n, isPrintable c = true := by
  intro c member
  obtain ⟨d, small, rfl⟩ := eq_hexDigit_of_mem_hexPadded member
  obtain ⟨low, high⟩ := toNat_hexDigit d small
  rw [isPrintable, if_pos high]
  exact decide_eq_true low

theorem isPrintable_of_mem_escaped {cs : List Char} : ∀ c ∈ escaped cs, isPrintable c = true := by
  intro c member
  obtain ⟨source, -, inside⟩ := List.mem_flatMap.mp member
  have spelling := spelling_quotedChar source
  clear member
  revert c
  generalize quotedChar '"' source = spelled at spelling
  have backslash : isPrintable '\\' = true := rfl
  cases spelling with
  | letter known =>
      simp only [List.mem_cons, Prod.mk.injEq, List.not_mem_nil, or_false] at known
      rcases known with ⟨rfl, -⟩ | ⟨rfl, -⟩ | ⟨rfl, -⟩ | ⟨rfl, -⟩ | ⟨rfl, -⟩ <;>
        exact List.all_eq_true.mp rfl
  | itself printable => exact List.forall_mem_singleton.mpr printable
  | twoDigits =>
      exact List.forall_mem_cons.mpr ⟨backslash, List.forall_mem_cons.mpr
        ⟨rfl, isPrintable_of_mem_hexPadded⟩⟩
  | manyDigits _ known =>
      simp only [List.mem_cons, Prod.mk.injEq, List.not_mem_nil, or_false] at known
      rcases known with ⟨rfl, -⟩ | ⟨rfl, -⟩ <;>
        exact List.forall_mem_cons.mpr ⟨backslash, List.forall_mem_cons.mpr
          ⟨rfl, isPrintable_of_mem_hexPadded⟩⟩

theorem head?_of_append {c : Char} {cs rest : List Char} (other : (cs ++ rest).head? ≠ some c) :
    cs.head? ≠ some c := by
  cases cs with
  | nil => exact fun none => by cases none
  | cons d cs => exact other

theorem head?_escaped (cs : List Char) : (escaped cs).head? ≠ some '"' := by
  cases cs with
  | nil => exact fun none => by cases none
  | cons c cs =>
      rw [escaped_cons]
      by_cases quote : c = '"'
      · subst quote
        exact fun same => by cases same
      · exact head?_quotedChar_append (Or.inr rfl) (Ne.symm quote) _

/-- What stands behind a mark at the start of an escaped text begins with a digit. -/
theorem head?_of_escaped_eq {cs rest : List Char} (marked : escaped cs = shortMark ++ rest) :
    rest.head? ≠ some '"' := by
  cases cs with
  | nil => cases marked
  | cons c cs =>
      have spelling := spelling_quotedChar c
      rw [escaped_cons] at marked
      generalize quotedChar '"' c = spelled at spelling marked
      cases spelling with
      | letter known =>
          obtain ⟨rfl, -⟩ := List.cons.inj (List.cons.inj marked).2
          simp at known
      | itself printable noQuote noBackslash => exact absurd (List.cons.inj marked).1 noBackslash
      | twoDigits =>
          obtain ⟨-, rfl⟩ := List.cons.inj (List.cons.inj marked).2
          intro head
          have small : c.toNat / 16 % 16 < 16 := Nat.mod_lt _ (by decide)
          exact hexDigit_ne small '"' (by simp) (Option.some.inj head)
      | manyDigits _ known =>
          obtain ⟨rfl, -⟩ := List.cons.inj (List.cons.inj marked).2
          simp at known

theorem basicBody_of_isWritable {s : String} (writable : IsWritable s.toList) :
    basicBody s = .ok (escaped s.toList) := by
  have absent : ¬ shortMark <:+: escaped s.toList := fun found =>
    (shortMark_infix_escaped_iff s.toList).mp found writable
  have pieces := splitChars_of_not_infix absent
  rw [basicBody_eq, ← shortMark, pieces]

/-- A text that is not writable is not written, or loses some of its weight. -/
theorem isShortened_of_basicBody {s : String} (blocked : ¬ IsWritable s.toList)
    {written : List Char} (body : basicBody s = .ok written) : IsShortened s.toList written := by
  have found := (shortMark_infix_escaped_iff s.toList).mpr blocked
  have nonempty : shortMark ≠ [] := List.cons_ne_nil _ _
  have printable : ∀ piece ∈ splitChars shortMark 0 (escaped s.toList), ∀ c ∈ piece,
      isPrintable c = true := fun piece member c inside =>
    isPrintable_of_mem_escaped c (subset_of_mem_splitChars piece member inside)
  have whole := intercalate_splitChars nonempty (escaped s.toList)
  have left : ∀ c ∈ ['x', 'u', '0'], isPrintable c = true := List.all_eq_true.mp rfl
  obtain ⟨first, second, pieces, cut⟩ : ∃ first second pieces,
      splitChars shortMark 0 (escaped s.toList) = first :: second :: pieces := by
    have many := two_le_length_splitChars nonempty found
    match splitChars shortMark 0 (escaped s.toList), many with
    | first :: second :: pieces, _ => exact ⟨first, second, pieces, rfl⟩
  rw [basicBody_eq, ← shortMark, cut] at body
  rw [cut] at printable whole
  rw [List.forall_mem_cons] at printable
  cases first with
  | nil =>
      cases pieces with
      | nil => cases body
      | cons third pieces =>
          -- The mark at the start is left out altogether.
          cases body
          obtain ⟨-, printable⟩ := printable
          rw [List.forall_mem_cons] at printable
          refine ⟨?_, forall_mem_joinEscapes left printable.1 printable.2,
            head?_joinEscapes ?_ (third :: pieces)⟩
          · have joined := weight_joinEscapes_le second (third :: pieces)
            rw [← whole, weight_intercalate, List.flatten_cons, weight_append, List.length_cons]
            omega
          · rw [List.intercalate_cons_cons, List.nil_append] at whole
            have noQuote := head?_of_escaped_eq whole.symm
            rw [List.intercalate_cons_cons, List.append_assoc] at noQuote
            exact head?_of_append noQuote
  | cons c cs =>
      obtain rfl : joinEscapes (c :: cs) (second :: pieces) = written := by
        cases pieces <;> exact Except.ok.inj body
      refine ⟨?_, forall_mem_joinEscapes left printable.1 printable.2,
        head?_joinEscapes ?_ (second :: pieces)⟩
      · have joined := weight_joinEscapes_le (c :: cs) (second :: pieces)
        rw [← whole, weight_intercalate, List.length_cons]
        omega
      · have noQuote := head?_escaped s.toList
        rw [← whole, List.intercalate_cons_cons, List.append_assoc] at noQuote
        exact head?_of_append noQuote

/-- A basic string has no characters that would need an escape. -/
theorem isPrintable_of_basicBody {s : String} {written : List Char}
    (body : basicBody s = .ok written) : ∀ c ∈ written, isPrintable c = true := by
  by_cases writable : IsWritable s.toList
  · obtain rfl := Except.ok.inj ((basicBody_of_isWritable writable).symm.trans body)
    exact isPrintable_of_mem_escaped
  · exact (isShortened_of_basicBody writable body).printable

/-! ## Reading -/

theorem eq_five_of_digitValue? {d : Char} (five : digitValue? d = some 5) : d = '5' := by
  have known : ∀ {n}, d.toNat = n → d = Char.ofNat n := by
    rintro _ rfl
    exact (Char.ofNat_toNat d).symm
  rw [digitValue?] at five
  split at five
  · have value := Option.some.inj five
    exact known (show d.toNat = 53 by omega)
  · split at five
    · next range =>
      have value := Option.some.inj five
      rw [known (show d.toNat = 92 by omega)] at range
      cases range
    · split at five
      · next range =>
        have value := Option.some.inj five
        rw [known (show d.toNat = 60 by omega)] at range
        cases range
      · cases five

/-- Among the digits only one has weight. -/
theorem weight_hexDigit : ∀ value < 16, weight [hexDigit value] = if value = 5 then 1 else 0 := by
  decide

/-- Digits weigh no less than the same number with any number of digits. -/
theorem weight_hexPadded_le {digits : List Char} (all : ∀ d ∈ digits, isDigitIn 16 d = true)
    (width : Nat) : weight (hexPadded width (ofDigits 16 digits)) ≤ weight digits := by
  induction width generalizing digits with
  | zero => exact Nat.zero_le _
  | succ width ih =>
      rw [hexPadded, weight_append]
      rcases List.eq_nil_or_concat digits with rfl | ⟨before, last, rfl⟩
      · exact ih (List.forall_mem_nil _)
      · rw [List.concat_eq_append] at all ⊢
        obtain ⟨others, digit⟩ := List.forall_mem_append.mp all
        have digit := List.forall_mem_singleton.mp digit
        rw [isDigitIn] at digit
        split at digit
        · next value known =>
          have small : value < 16 := of_decide_eq_true digit
          have total : ofDigits 16 (before ++ [last]) = ofDigits 16 before * 16 + value := by
            rw [ofDigits_append_singleton, known, Option.getD_some]
          have front : (ofDigits 16 before * 16 + value) / 16 = ofDigits 16 before := by omega
          have back : (ofDigits 16 before * 16 + value) % 16 = value := by omega
          rw [total, front, back, weight_append, weight_hexDigit value small]
          have rest := ih others
          split
          · next five =>
            have same : last = '5' := eq_five_of_digitValue? (five ▸ known)
            have one : weight [last] = 1 := by
              rw [same]
              rfl
            omega
          · omega
        · cases digit

theorem quotedChar_of_isPrintable {c : Char} (printable : isPrintable c = true) (noQuote : c ≠ '"')
    (noBackslash : c ≠ '\\') : quotedChar '"' c = [c] := by
  have spelling := spelling_quotedChar c
  generalize quotedChar '"' c = spelled at spelling
  cases spelling with
  | letter known =>
      simp only [List.mem_cons, Prod.mk.injEq, List.not_mem_nil, or_false] at known
      rcases known with ⟨-, rfl⟩ | ⟨-, rfl⟩ | ⟨-, rfl⟩ | ⟨-, rfl⟩ | ⟨-, rfl⟩
      · exact absurd rfl noQuote
      · exact absurd rfl noBackslash
      · cases printable
      · cases printable
      · cases printable
  | itself => rfl
  | twoDigits unprintable => cases printable.symm.trans unprintable
  | manyDigits unprintable => cases printable.symm.trans unprintable

/-- The escape of a character is no heavier than the one it was read from. -/
theorem weight_quotedChar_of_letter {letter c : Char} (known : escapeChar? letter = some c) :
    weight (quotedChar '"' c) ≤ weight ['\\', letter] := by
  unfold escapeChar? at known
  split at known
  all_goals first | cases known
  all_goals decide

theorem weight_quotedChar_of_digits {digits : List Char} (all : ∀ d ∈ digits, isDigitIn 16 d = true)
    {c : Char} (code : c.toNat = ofDigits 16 digits) :
    weight (quotedChar '"' c) ≤ 1 + weight digits := by
  have spelling := spelling_quotedChar c
  generalize quotedChar '"' c = spelled at spelling
  have same := fun width => weight_hexPadded_le all width
  rw [← code] at same
  cases spelling with
  | letter known =>
      have four : weight (hexPadded 2 '\\'.toNat) = 1 := rfl
      have twice := same 2
      simp only [List.mem_cons, Prod.mk.injEq, List.not_mem_nil, or_false] at known
      rcases known with ⟨rfl, rfl⟩ | ⟨rfl, rfl⟩ | ⟨rfl, rfl⟩ | ⟨rfl, rfl⟩ | ⟨rfl, rfl⟩
      · exact Nat.le_add_right 1 _
      · -- The digits of a backslash are the only ones that have to make up for one.
        have two : weight ['\\', '\\'] = 2 := rfl
        omega
      · exact Nat.le_add_right 1 _
      · exact Nat.le_add_right 1 _
      · exact Nat.le_add_right 1 _
  | itself => exact Nat.le_trans (weight_singleton_le c) (Nat.le_add_right 1 _)
  | twoDigits =>
      exact Nat.le_trans (Nat.le_of_eq (weight_append ['\\', 'x'] _))
        (Nat.add_le_add_left (same 2) 1)
  | @manyDigits _ letter width _ known =>
      have mark : weight ['\\', letter] = 1 := by
        simp only [List.mem_cons, Prod.mk.injEq, List.not_mem_nil, or_false] at known
        rcases known with ⟨rfl, -⟩ | ⟨rfl, -⟩ <;> rfl
      have whole := weight_append ['\\', letter] (hexPadded width c.toNat)
      have digits := same width
      rw [mark] at whole
      exact Nat.le_trans (Nat.le_of_eq whole) (Nat.add_le_add_left digits 1)

/-- What may stand behind the comma behind a text: the next text, or the end. -/
inductive AfterComma : List Char → Prop
  | text (rest : List Char) : AfterComma (' ' :: '"' :: rest)
  | done (rest : List Char) : AfterComma (']' :: '\n' :: rest)

/-- A text that goes on behind its closing quote ends at the next text. -/
theorem weight_of_afterComma {after : List Char} (follows : AfterComma after) {fuel : Nat}
    {text rest : List Char} (read : basicText false fuel (',' :: after) = .ok (text, rest)) :
    weight (escaped text) = 0 := by
  obtain _ | _ | _ | fuel := fuel
  · cases read
  · cases follows <;> cases read
  · cases follows <;> cases read
  · cases follows with
    | text others =>
        cases read
        rfl
    | done others => cases read

/-- The number of a character is read from digits in front of the rest. -/
theorem hexChar_eq_ok {width : Nat} {cs rest : List Char} {c : Char}
    (read : hexChar width cs = .ok (c, rest)) :
    ∃ digits, cs = digits ++ rest ∧ (∀ d ∈ digits, isDigitIn 16 d = true) ∧
      c.toNat = ofDigits 16 digits := by
  rw [hexChar] at read
  simp only [] at read
  split at read
  · next digits =>
    rw [Bool.and_eq_true, List.all_eq_true] at digits
    split at read
    · next valid =>
      obtain ⟨rfl, rfl⟩ := Prod.mk.inj (Except.ok.inj read)
      refine ⟨cs.take width, (List.take_append_drop width cs).symm, digits.2, ?_⟩
      rw [Char.ofNat, dif_pos valid]
      rfl
    · cases read
  · cases read

/-- An escape behind its backslash: a letter, or one of two letters and digits. -/
inductive EscapeOf : Char → List Char → Prop
  | letter {letter c : Char} (known : escapeChar? letter = some c) : EscapeOf c [letter]
  | digits {letter c : Char} {digits : List Char} (known : letter = 'u' ∨ letter = 'U')
    (all : ∀ d ∈ digits, isDigitIn 16 d = true) (code : c.toNat = ofDigits 16 digits) :
    EscapeOf c (letter :: digits)

theorem EscapeOf.weight_le {c : Char} {spelled : List Char} (spelling : EscapeOf c spelled) :
    weight (quotedChar '"' c) ≤ 1 + weight spelled := by
  cases spelling with
  | @letter letter _ known =>
      exact Nat.le_trans (weight_quotedChar_of_letter known)
        (Nat.le_of_eq (weight_cons '\\' [letter]))
  | digits known all code =>
      refine Nat.le_trans (weight_quotedChar_of_digits all code) (Nat.add_le_add_left ?_ 1)
      exact (List.sublist_cons_self _ _).countP_le

/-- The only escape with a quote mark in it is that of the quote mark. -/
theorem EscapeOf.eq_of_quote {c : Char} {spelled : List Char} (spelling : EscapeOf c spelled)
    (quote : '"' ∈ spelled) : spelled = ['"'] := by
  cases spelling with
  | letter known => rw [List.mem_singleton.mp quote]
  | digits known all code =>
      rcases List.mem_cons.mp quote with rfl | digit
      · rcases known with known | known <;> cases known
      · cases all '"' digit

/-- An escape stands for one character, and is spelled in one of two ways. -/
theorem escape_eq_ok {before front after : List Char}
    (read : escape false before = .ok (front, after)) :
    ∃ c spelled, front = [c] ∧ before = spelled ++ after ∧ EscapeOf c spelled := by
  have numbered : ∀ {width letter cs}, letter = 'u' ∨ letter = 'U' →
      (hexChar width cs).map (fun found => ([found.1], found.2)) = .ok (front, after) →
      ∃ c spelled, front = [c] ∧ letter :: cs = spelled ++ after ∧ EscapeOf c spelled := by
    intro width letter cs known mapped
    obtain ⟨⟨c, rest⟩, number, pair⟩ := exists_of_map_eq_ok mapped
    obtain ⟨rfl, rfl⟩ := Prod.mk.inj pair
    obtain ⟨digits, rfl, all, code⟩ := hexChar_eq_ok number
    exact ⟨c, letter :: digits, rfl, rfl, .digits known all code⟩
  cases before with
  | nil => cases read
  | cons letter cs =>
      by_cases short : letter = 'u'
      · subst short
        rw [escape_digits (show ('u', 4) ∈ _ by decide)] at read
        exact numbered (Or.inl rfl) read
      by_cases long : letter = 'U'
      · subst long
        rw [escape_digits (show ('U', 8) ∈ _ by decide)] at read
        exact numbered (Or.inr rfl) read
      · cases known : escapeChar? letter with
        | none =>
            rw [escape] at read
            simp [short, long, known, require, malformed, bind, Except.bind] at read
        | some c =>
            rw [escape_letter known ⟨short, long⟩] at read
            obtain ⟨rfl, rfl⟩ := Prod.mk.inj (Except.ok.inj read)
            exact ⟨c, [letter], rfl, rfl, .letter known⟩

/-- Behind a backslash the text goes on with an escape, and with the rest of the text. -/
theorem basicText_backslash {before text rest : List Char} {fuel : Nat}
    (read : basicText false (fuel + 1) ('\\' :: before) = .ok (text, rest)) :
    ∃ c spelled after others, before = spelled ++ after ∧ EscapeOf c spelled ∧
      text = c :: others ∧ basicText false fuel after = .ok (others, rest) := by
  cases front : escape false before with
  | error why =>
      rw [basicText, front] at read
      cases read
  | ok found =>
      obtain ⟨c, spelled, single, shape, spelling⟩ := escape_eq_ok front
      have known : escape false before = .ok ([c], found.2) := by rw [front, ← single]
      rw [basicText_escape known] at read
      obtain ⟨⟨others, rest⟩, behind, pair⟩ := exists_of_map_eq_ok read
      obtain ⟨rfl, rfl⟩ := Prod.mk.inj pair
      exact ⟨c, spelled, found.2, others, shape, spelling, rfl, behind⟩

/-- The escapes of what is read weigh no more than what is read. -/
theorem weight_escaped_le {written after : List Char}
    (printable : ∀ c ∈ written, isPrintable c = true) (follows : AfterComma after) {fuel : Nat}
    {text rest : List Char}
    (read : basicText false fuel (written ++ '"' :: ',' :: after) = .ok (text, rest)) :
    weight (escaped text) ≤ weight written := by
  induction fuel generalizing written text with
  | zero => cases read
  | succ fuel ih =>
      cases written with
      | nil =>
          cases read
          exact Nat.le_refl 0
      | cons c written =>
          obtain ⟨visible, others⟩ := List.forall_mem_cons.mp printable
          by_cases quote : c = '"'
          · subst quote
            cases read
            exact Nat.zero_le _
          by_cases backslash : c = '\\'
          · subst backslash
            have one : weight ['\\'] = 1 := rfl
            obtain ⟨d, spelled, behind, text, shape, spelling, rfl, next⟩ :=
              basicText_backslash read
            have escape := spelling.weight_le
            rw [escaped_cons, weight_append, weight_cons '\\' written, one]
            rcases List.append_eq_append_iff.mp shape with ⟨more, longer, tail⟩ | ⟨more, rfl, tail⟩
            · cases more with
              | nil =>
                  obtain rfl : behind = '"' :: ',' :: after := tail.symm
                  have closed := @ih [] (List.forall_mem_nil _) text next
                  rw [longer, List.append_nil] at escape
                  rw [weight_nil] at closed
                  omega
              | cons first more =>
                  -- The backslash stands in front of the closing quote.
                  obtain ⟨rfl, beyond⟩ := List.cons.inj tail
                  have quoteInside : '"' ∈ spelled := by
                    rw [longer]
                    exact List.mem_append_right written List.mem_cons_self
                  have alone := longer.symm.trans (spelling.eq_of_quote quoteInside)
                  obtain rfl : more = [] := by
                    cases written with
                    | nil => exact (List.cons.inj alone).2
                    | cons c written => cases (List.append_eq_nil_iff.mp (List.cons.inj alone).2).2
                  obtain rfl : behind = ',' :: after := beyond.symm
                  have gap := weight_of_afterComma follows next
                  have none : weight spelled = 0 := by
                    rw [spelling.eq_of_quote quoteInside]
                    rfl
                  omega
            · subst tail
              have lighter := ih (List.forall_mem_append.mp others).2 next
              rw [weight_append]
              omega
          · have noControl := not_isControl_of_isPrintable visible
            rw [List.cons_append, basicText_plain quote backslash noControl] at read
            obtain ⟨⟨others', rest'⟩, behind, pair⟩ := exists_of_map_eq_ok read
            obtain ⟨rfl, rfl⟩ := Prod.mk.inj pair
            have lighter := ih others behind
            rw [escaped_cons, quotedChar_of_isPrintable visible quote backslash, weight_append,
              weight_cons c written]
            exact Nat.add_le_add_left lighter _

end PathExpr.Format.Toml

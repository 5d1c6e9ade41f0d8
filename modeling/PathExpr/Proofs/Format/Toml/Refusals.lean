import PathExpr.Format.Toml.Reader
import PathExpr.Proofs.Format.Refusals
import PathExpr.Proofs.Number.Digits

/-!
# Refusals of TOML

The only fault of a TOML document is an integer with too many digits: a date that
does not exist makes the document malformed.
-/

namespace PathExpr.Format.Toml

open Std.Do PathExpr.Number PathExpr.Text

set_option mvcgen.warning false

variable {whole cs rest : List Char} {allowed : Fault → Prop}

/-! ## Texts -/

/-- Spaces and tabs between the parts of a line are passed. -/
theorem skipGap_suffix (cs : List Char) : skipGap cs <:+ cs :=
  List.dropWhile_suffix isGap

theorem dropLine_suffix (cs : List Char) : dropLine cs <:+ cs := by
  unfold dropLine
  split
  · exact List.suffix_cons _ _
  · exact List.suffix_rfl

/-- Marks that belong to the end of a text are passed with it. -/
theorem withExtraMarks_suffix (mark : Char) (found : List Char × List Char) :
    (withExtraMarks mark found).2 <:+ found.2 := by
  unfold withExtraMarks
  grind

@[spec]
theorem skipComment_spec (cs : List Char) :
    ⦃⌜True⌝⦄ skipComment cs ⦃Ends (· <:+ cs) allowed⦄ := by
  mvcgen [skipComment]
  grind [List.dropWhile_suffix]

/-- The number of a character is malformed or stands for one; it has no fault. -/
@[spec]
theorem hexChar_spec (width : Nat) (cs : List Char) :
    ⦃⌜True⌝⦄ hexChar width cs ⦃Leaves cs allowed⦄ := by
  mvcgen [hexChar]
  grind [List.drop_suffix]

/-- An escape, or a line end that an escape takes back, leaves the end of the document. -/
@[spec]
theorem escape_spec (manyLines : Bool) (cs : List Char) :
    ⦃⌜True⌝⦄ escape manyLines cs ⦃Leaves cs allowed⦄ := by
  mvcgen [escape] <;> grind [skipGap_suffix, List.dropWhile_suffix]

/-- The text between quotes, up to and with the closing mark. -/
@[spec]
theorem basicText_spec (manyLines : Bool) (fuel : Nat) (cs : List Char) :
    ⦃⌜True⌝⦄ basicText manyLines fuel cs ⦃Leaves cs allowed⦄ := by
  induction fuel generalizing cs with
  | zero =>
      mvcgen [basicText]
  | succ fuel ih => mvcgen [basicText, ih] <;> grind

@[spec]
theorem literalText_spec (mark : List Char) (refuses : Char → Bool) (cs : List Char) :
    ⦃⌜True⌝⦄ literalText mark refuses cs ⦃Leaves cs allowed⦄ := by
  mvcgen [literalText]
  grind

/-- A text in any quotation is read without a fault. -/
theorem quotedText?_spec {part : Reading (String × List Char)}
    (found : quotedText? cs = some part) :
    ⦃⌜True⌝⦄ part ⦃Leaves cs allowed⦄ := by
  unfold quotedText? at found
  split at found <;> cases found <;> mvcgen <;>
    grind [dropLine_suffix, withExtraMarks_suffix]

/-! ## Numbers and dates -/

/-- The digits of a decimal number are the ten that are counted against the limit. -/
theorem isDigit_of_isDigitIn_ten {c : Char} (digit : isDigitIn 10 c = true) : isDigit c = true := by
  unfold isDigitIn digitValue? at digit
  grind [isDigit, Char.le_def, UInt32.le_iff_toNat_le, Char.toNat]

/-- The digits of a run stand in the document in their order, with the marks between them left
out. -/
theorem digitRun_sublist (base : Nat) (cs : List Char) : (digitRun base cs).1.Sublist cs := by
  fun_induction digitRun base cs <;> grind

/-- Behind a run of digits stands the end of the document. -/
theorem digitRun_suffix (base : Nat) (cs : List Char) : (digitRun base cs).2 <:+ cs := by
  fun_induction digitRun base cs <;> grind

theorem isDigitIn_of_mem_digitRun {base : Nat} {c : Char}
    (member : c ∈ (digitRun base cs).1) : isDigitIn base c = true := by
  fun_induction digitRun base cs <;> grind

@[grind →]
theorem twoDigits?_suffix {low high : Nat} {part : Nat × List Char}
    (found : twoDigits? low high cs = some part) : part.2 <:+ cs := by
  unfold twoDigits? at found
  grind

@[grind →]
theorem passMark?_suffix {test : Char → Bool} (found : passMark? test cs = some rest) :
    rest <:+ cs := by
  unfold passMark? at found
  grind

/-- Behind a time of day stands the end of the document, whether it has a fraction or none. -/
@[grind →]
theorem time?_suffix {part : TimeOfDay × List Char} (found : time? cs = some part) :
    part.2 <:+ cs := by
  simp only [time?, Option.bind_eq_bind, Option.bind_eq_some_iff] at found
  grind [List.dropWhile_suffix]

/-- An offset from universal time is a letter or a signed time; both are passed. -/
@[grind →]
theorem offset?_suffix {part : Int × List Char} (found : offset? cs = some part) :
    part.2 <:+ cs := by
  unfold offset? at found
  split at found
  · split at found
    · grind
    · split at found
      · simp only [Option.bind_eq_bind, Option.bind_eq_some_iff] at found
        grind
      · cases found
  · cases found

@[grind →]
theorem dateNumbers?_suffix {part : (Nat × Nat × Nat) × List Char}
    (found : dateNumbers? cs = some part) : part.2 <:+ cs := by
  simp only [dateNumbers?, Option.bind_eq_bind] at found
  split at found
  · simp only [Option.bind_eq_some_iff] at found
    grind [List.drop_suffix]
  · cases found

/-- Numbers in other bases than ten have no limit, so only their end is of interest. -/
@[grind →]
theorem basedNumber?_suffix {part : Nat × List Char} (found : basedNumber? cs = some part) :
    part.2 <:+ cs := by
  simp only [basedNumber?, Option.bind_eq_bind] at found
  grind [digitRun_suffix]

theorem takeSign_suffix (cs : List Char) : (takeSign cs).2 <:+ cs := by
  unfold takeSign
  grind

/-- The same holds for infinity and for the value that is not a number. -/
@[grind →]
theorem wordNumber?_suffix {part : Value × List Char} (found : wordNumber? cs = some part) :
    part.2 <:+ cs := by
  unfold wordNumber? at found
  grind [takeSign_suffix]

/-- A date that does not exist makes the document malformed. -/
theorem moment?_spec {part : Reading (Value × List Char)} (found : moment? cs = some part) :
    ⦃⌜True⌝⦄ part ⦃Leaves cs allowed⦄ := by
  unfold moment? at found
  obtain ⟨⟨⟨year, month, day⟩, after⟩, date, found⟩ := Option.bind_eq_some_iff.mp found
  have ended : after <:+ cs := dateNumbers?_suffix date
  simp only at found
  split at found
  · cases found
    mvcgen
  · next time rest timed =>
    have ended : rest <:+ cs := by
      obtain ⟨body, gap, time⟩ := Option.bind_eq_some_iff.mp timed
      exact ((time?_suffix time).trans (passMark?_suffix gap)).trans ended
    split at found
    · cases found
      mvcgen
      grind
    · cases found
      mvcgen

/-- A decimal number either has an end, or it is an integer with too many digits. -/
theorem decimal?_cases {part : Reading (Value × List Char)} (found : decimal? cs = some part) :
    (∃ value rest, part = .ok (value, rest) ∧ rest <:+ cs) ∨
    ∃ cause, part = failWith cause ∧ LongNumber cs cause := by
  unfold decimal? at found
  simp only at found
  split at found
  · cases found
  · next digits after taken =>
    have outcome : (∃ value rest, part = .ok (value, rest) ∧ rest <:+ after) ∨
        (part = failWith (.tooManyDigits (some digits.length)) ∧ digitLimit < digits.length) := by
      clear taken
      grind [digitRun_suffix, takeSign_suffix]
    have parts : after <:+ cs ∧ digits.Sublist cs ∧ ∀ d ∈ digits, isDigit d = true := by
      have unsigned := takeSign_suffix cs
      clear found outcome
      split at taken
      · next same =>
        cases taken
        rw [same] at unsigned
        have zero : ['0'].Sublist cs :=
          (List.singleton_sublist.mpr List.mem_cons_self).trans unsigned.sublist
        exact ⟨suffix_of_cons unsigned, zero, List.forall_mem_singleton.mpr (by decide)⟩
      · next c rest _ same =>
        rw [same] at unsigned
        split at taken
        · obtain ⟨rfl, rfl⟩ := Prod.ext_iff.mp (Option.some.inj taken)
          have ended := (digitRun_suffix 10 (c :: rest)).trans unsigned
          have shown := (digitRun_sublist 10 (c :: rest)).trans unsigned.sublist
          refine ⟨ended, shown, ?_⟩
          intro d member
          exact isDigit_of_isDigitIn_ten (isDigitIn_of_mem_digitRun member)
        · cases taken
      · cases taken
    obtain ⟨ended, shown, all⟩ := parts
    obtain ⟨value, rest, read, behind⟩ | ⟨failed, long⟩ := outcome
    · exact .inl ⟨value, rest, read, behind.trans ended⟩
    · exact .inr ⟨_, failed, digits, rfl, long, shown, all⟩

/-- The fault of a decimal number is allowed at any place of the document. -/
theorem decimal?_spec {part : Reading (Value × List Char)} (found : decimal? cs = some part)
    (behind : cs <:+ whole) : ⦃⌜True⌝⦄ part ⦃Leaves whole (LongNumber whole)⦄ := by
  obtain ⟨value, rest, rfl, ended⟩ | ⟨cause, rfl, long⟩ := decimal?_cases found
  · exact fun _ => ended.trans behind
  · exact fun _ => long.mono behind.sublist

/-- A value without quotes fails only as a decimal number: the other forms have an end or are
malformed. -/
@[spec]
theorem plainScalar_spec (behind : cs <:+ whole) :
    ⦃⌜True⌝⦄ plainScalar cs ⦃Leaves whole (LongNumber whole)⦄ := by
  unfold plainScalar
  split
  · mvcgen
    grind
  · mvcgen
    grind
  · split
    · next found => exact leaves_of_suffix behind (moment?_spec found)
    · split
      · mvcgen
        grind
      · split
        · mvcgen
          grind
        · split
          · next found => exact decimal?_spec found behind
          · mvcgen
            grind

/-! ## Keys and values -/

@[spec]
theorem keyName_spec (cs : List Char) :
    ⦃⌜True⌝⦄ keyName cs ⦃Leaves cs allowed⦄ := by
  mvcgen [keyName] <;> grind [List.dropWhile_suffix]

@[spec]
theorem keyNames_spec (fuel : Nat) (cs : List Char) :
    ⦃⌜True⌝⦄ keyNames fuel cs ⦃Leaves cs allowed⦄ := by
  induction fuel generalizing cs with
  | zero =>
      mvcgen [keyNames]
  | succ fuel ih => mvcgen [keyNames, ih] <;> grind [skipGap_suffix]

/-- A dotted key has no fault, whatever quotes its names stand in. -/
@[spec]
theorem readKey_spec (cs : List Char) :
    ⦃⌜True⌝⦄ readKey cs ⦃Leaves cs allowed⦄ :=
  keyNames_spec _ cs

/-- Blanks, line ends and comments between the items of an array are passed. -/
@[spec]
theorem skipArrayGap_spec (fuel : Nat) (cs : List Char) :
    ⦃⌜True⌝⦄ skipArrayGap fuel cs ⦃Ends (· <:+ cs) allowed⦄ := by
  induction fuel generalizing cs with
  | zero => exact fun _ => List.suffix_rfl
  | succ fuel ih => mvcgen [skipArrayGap, ih] <;> grind [List.dropWhile_suffix]

@[spec]
theorem addInline_spec (key : Key) (value : Value) (entries : Entries) :
    ⦃⌜True⌝⦄ addInline key value entries ⦃Ends (fun _ => True) allowed⦄ := by
  mvcgen [addInline]

/-- Nothing but a long number is a fault, at any place of a value. -/
theorem readers_spec (fuel : Nat) :
    (∀ cs, cs <:+ whole →
      ⦃⌜True⌝⦄ readValue fuel cs ⦃Leaves whole (LongNumber whole)⦄) ∧
    (∀ cs, cs <:+ whole →
      ⦃⌜True⌝⦄ readItems fuel cs ⦃Leaves whole (LongNumber whole)⦄) ∧
    (∀ declared entries cs, cs <:+ whole →
      ⦃⌜True⌝⦄ readMembers fuel declared entries cs ⦃Leaves whole (LongNumber whole)⦄) ∧
    (∀ cs, cs <:+ whole →
      ⦃⌜True⌝⦄ readEntry fuel cs ⦃Ends (·.2.2 <:+ whole) (LongNumber whole)⦄) := by
  induction fuel with
  | zero =>
      refine ⟨fun cs _ => ?_, fun cs _ => ?_, fun declared entries cs _ => ?_, fun cs _ => ?_⟩
      · mvcgen [readValue]
      · mvcgen [readItems]
      · mvcgen [readMembers]
      · mvcgen [readEntry]
  | succ fuel ih =>
      obtain ⟨values, items, members, entry⟩ := ih
      refine ⟨fun cs behind => ?_, fun cs behind => ?_, fun declared entries cs behind => ?_,
        fun cs behind => ?_⟩
      · unfold readValue
        split
        · next part found =>
          have text : ⦃⌜True⌝⦄ part ⦃Leaves whole (LongNumber whole)⦄ :=
            leaves_of_suffix behind (quotedText?_spec found)
          mvcgen [text]
        · mvcgen [items, members] <;> grind [skipGap_suffix]
      · mvcgen [readItems, values, items] <;> grind
      · mvcgen [readMembers, members, entry] <;> grind [skipGap_suffix]
      · mvcgen [readEntry, values]
        grind [skipGap_suffix]

/-! ## Statements -/

@[spec]
theorem Progress.addEntry_spec (progress : Progress) (key : Key) (value : Value) :
    ⦃⌜True⌝⦄ progress.addEntry key value ⦃Ends (fun _ => True) allowed⦄ := by
  mvcgen [Progress.addEntry]

@[spec]
theorem Progress.openTable_spec (progress : Progress) (key : Key) :
    ⦃⌜True⌝⦄ progress.openTable key ⦃Ends (fun _ => True) allowed⦄ := by
  mvcgen [Progress.openTable]

@[spec]
theorem Progress.openItem_spec (progress : Progress) (key : Key) :
    ⦃⌜True⌝⦄ progress.openItem key ⦃Ends (fun _ => True) allowed⦄ := by
  mvcgen [Progress.openItem]

@[spec]
theorem readHeader_spec (progress : Progress) (behind : cs <:+ whole) :
    ⦃⌜True⌝⦄ readHeader progress cs ⦃Leaves whole allowed⦄ := by
  mvcgen [readHeader] <;> grind [skipGap_suffix]

/-- A statement fails only by the value of an entry; a header has no fault. -/
@[spec]
theorem readStatement_spec (progress : Progress) (behind : cs <:+ whole) :
    ⦃⌜True⌝⦄ readStatement progress cs ⦃Leaves whole (LongNumber whole)⦄ := by
  have entry : ∀ fuel cs, cs <:+ whole →
      ⦃⌜True⌝⦄ readEntry fuel cs ⦃Ends (·.2.2 <:+ whole) (LongNumber whole)⦄ :=
    fun fuel => (readers_spec fuel).2.2.2
  mvcgen [readStatement, entry] <;> grind

/-- The induction over the lines of a document: what is left stays an end of the whole. -/
@[spec]
theorem readLines_spec (fuel : Nat) (progress : Progress) (behind : cs <:+ whole) :
    ⦃⌜True⌝⦄ readLines fuel progress cs ⦃Ends (fun _ => True) (LongNumber whole)⦄ := by
  induction fuel generalizing progress cs with
  | zero => mvcgen [readLines]
  | succ fuel ih => mvcgen [readLines, ih] <;> grind [skipGap_suffix]

/-- Unifying the line ends only leaves characters out, so digits keep their order. -/
theorem unifyLines_sublist : (cs : List Char) → (unifyLines cs).Sublist cs
  | [] => .refl []
  | c :: rest => by
      unfold unifyLines
      split
      · next same => cases same
      · next after same =>
        cases same
        exact ((unifyLines_sublist after).cons_cons '\n').cons '\r'
      · next d after _ same =>
        cases same
        exact (unifyLines_sublist rest).cons_cons c

/-- A TOML document fails only for an integer with too many digits, which it shows. -/
theorem longNumber_of_read {s : String} {cause : Fault} (failed : read s = .error (.fault cause)) :
    LongNumber s.toList cause := by
  have ends : ⦃⌜True⌝⦄ read s ⦃Ends (fun _ => True) (LongNumber (unifyLines s.toList))⦄ := by
    mvcgen [read]
  exact (allowed_of_triple ends failed).mono (unifyLines_sublist s.toList)

end PathExpr.Format.Toml

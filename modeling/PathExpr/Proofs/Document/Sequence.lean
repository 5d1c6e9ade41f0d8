import PathExpr.Proofs.CommandLine.Contained
import PathExpr.Proofs.Document.RoundTrip

/-!
# Where a document holds a raw sequence

Going inwards through mappings with one entry each, one ends at exactly one value
that is no such mapping, or never ends, because the way comes back to a mapping on
it.  A list of texts at the end is the sequence.  Inside at least one mapping a
lone text is a sequence too, and so is nothing.  Anything else is refused with a
report that shows the value at which the way ended, but on a way without an end
there is no such value, and the stack runs out.

A document that is malformed, or of no known format, stands for its own text.  That
text is met outside any mapping, so it is never taken for a sequence.
-/

namespace PathExpr

open PathExpr.Format PathExpr.Text

namespace RawSequence

/-! ## The way inwards -/

/-- A value lies inside so many mappings with one entry each. -/
inductive Inside : Nat → Value → Value → Prop
  | here (value : Value) : Inside 0 value value
  | entry {depth : Nat} {key core inner value : Value} (holds : value.opened = .map [(key, inner)])
      (inside : Inside depth core inner) : Inside (depth + 1) core value

/-- The way inwards ends at a value that is no mapping with one entry. -/
def IsCore (value : Value) : Prop :=
  ∀ key inner, value.opened ≠ .map [(key, inner)]

/-- One can go inwards through any number of mappings. -/
def NeverEnds (value : Value) : Prop :=
  ∀ depth, ∃ inner, Inside depth inner value

/-- The sequence for which a value inside so many mappings stands. -/
inductive Offers : Nat → Value → List String → Prop
  | list (depth : Nat) {core : Value} {texts : List String}
      (holds : core.opened = .list (texts.map .text)) : Offers depth core texts
  | text (depth : Nat) (s : String) : Offers (depth + 1) (.text s) [s]
  | null (depth : Nat) : Offers (depth + 1) .null []

section Ways

variable {depth other : Nat} {core inner value : Value}

theorem inner_unique {key otherKey found : Value} (holds : value.opened = .map [(key, inner)])
    (holdsOther : value.opened = .map [(otherKey, found)]) : inner = found := by
  have same := Value.map.inj (holds.symm.trans holdsOther)
  exact (Prod.mk.inj (List.cons.inj same).1).2

/-- The way inwards has one end. -/
theorem Inside.unique {otherCore : Value} (inside : Inside depth core value)
    (isCore : IsCore core) (insideOther : Inside other otherCore value)
    (isCoreOther : IsCore otherCore) : depth = other ∧ core = otherCore := by
  induction inside generalizing other with
  | here value =>
      cases insideOther with
      | here => exact ⟨rfl, rfl⟩
      | entry holds inside => exact (isCore _ _ holds).elim
  | entry holds inside ih =>
      cases insideOther with
      | here => exact (isCoreOther _ _ holds).elim
      | entry holdsOther insideOther =>
          obtain rfl := inner_unique holds holdsOther
          obtain ⟨rfl, rfl⟩ := ih isCore insideOther
          exact ⟨rfl, rfl⟩

/-- The ways into a value and on from there make up one way. -/
theorem Inside.trans (outer : Inside depth inner value) (inside : Inside other core inner) :
    Inside (depth + other) core value := by
  induction outer with
  | here => rwa [Nat.zero_add]
  | entry holds _ ih =>
      rw [Nat.add_right_comm]
      exact .entry holds (ih inside)

/-- A way passes through every depth up to its own. -/
theorem Inside.exists_of_le (inside : Inside depth core value) (less : other ≤ depth) :
    ∃ between, Inside other between value := by
  induction inside generalizing other with
  | here value =>
      obtain rfl := Nat.le_zero.mp less
      exact ⟨value, .here value⟩
  | @entry depth _ _ _ value holds _ ih =>
      cases other with
      | zero => exact ⟨value, .here value⟩
      | succ other =>
          obtain ⟨between, inside⟩ := ih (Nat.le_of_succ_le_succ less)
          exact ⟨between, .entry holds inside⟩

/-- A value that one can go on from is not the end of a way. -/
theorem Inside.not_isCore (inside : Inside depth core value)
    (deeper : Inside (depth + 1) inner value) : ¬ IsCore core := by
  induction inside with
  | here =>
      cases deeper with
      | entry holds _ => exact fun isCore => isCore _ _ holds
  | entry holds _ ih =>
      cases deeper with
      | entry holdsDeeper deeper =>
          obtain rfl := inner_unique holds holdsDeeper
          exact ih deeper

theorem NeverEnds.not_isCore (never : NeverEnds value) (inside : Inside depth core value) :
    ¬ IsCore core := by
  obtain ⟨inner, deeper⟩ := never (depth + 1)
  exact inside.not_isCore deeper

theorem NeverEnds.entry {key : Value} (never : NeverEnds inner)
    (holds : value.opened = .map [(key, inner)]) : NeverEnds value := by
  intro depth
  cases depth with
  | zero => exact ⟨value, .here value⟩
  | succ depth =>
      obtain ⟨deeper, inside⟩ := never depth
      exact ⟨deeper, .entry holds inside⟩

/-- A way that comes back to its beginning can be gone again and again. -/
theorem neverEnds_of_cycle (cycle : Inside (depth + 1) value value) : NeverEnds value := by
  have rounds : ∀ count, Inside (count * (depth + 1)) value value := by
    intro count
    induction count with
    | zero =>
        rw [Nat.zero_mul]
        exact .here value
    | succ count ih =>
        rw [Nat.succ_mul]
        exact ih.trans cycle
  intro far
  exact (rounds far).exists_of_le (Nat.le_mul_of_pos_right far (Nat.succ_pos depth))

theorem Inside.integersShort (inside : Inside depth core value) (short : value.IntegersShort) :
    core.IntegersShort := by
  induction inside with
  | here => exact short
  | entry holds _ ih =>
      have layer := short.opened
      rw [holds] at layer
      exact ih fun n has => layer n (.value List.mem_cons_self has)

end Ways

/-! ## What stands for a sequence -/

section Sequences

variable {depth : Nat} {core inner : Value} {texts : List String}

theorem Offers.isCore (offers : Offers depth core texts) : IsCore core := by
  intro key inner holds
  cases offers with
  | list depth layer => cases layer.symm.trans holds
  | text depth s => cases holds
  | null depth => cases holds

/-- One mapping more makes no difference, but around a text or nothing. -/
theorem offers_succ_iff (inside : Inside depth core inner) (noText : ∀ s, inner ≠ .text s)
    (noNull : inner ≠ .null) : Offers (depth + 1) core texts ↔ Offers depth core texts := by
  constructor
  · intro offers
    cases offers with
    | list _ holds => exact .list depth holds
    | text _ s =>
        cases inside with
        | here => exact (noText s rfl).elim
        | entry => exact .text _ s
    | null =>
        cases inside with
        | here => exact (noNull rfl).elim
        | entry => exact .null _
  · intro offers
    cases offers with
    | list _ holds => exact .list _ holds
    | text _ s => exact .text _ s
    | null => exact .null _

/-- A value stands for one sequence at most. -/
theorem Offers.unique {others : List String} (offers : Offers depth core texts)
    (offersOther : Offers depth core others) : texts = others := by
  cases offers with
  | list _ holds =>
      cases offersOther with
      | list _ holdsOther =>
          have same := Value.list.inj (holds.symm.trans holdsOther)
          exact List.map_injective_iff.mpr (fun _ _ => Value.text.inj) same
      | text _ s => cases holds
      | null => cases holds
  | text _ s =>
      cases offersOther with
      | list _ holds => cases holds
      | text => rfl
  | null =>
      cases offersOther with
      | list _ holds => cases holds
      | null => rfl

end Sequences

/-! ## What becomes of a value -/

/-- How taking the sequence out of a value ends, by the way inwards. -/
inductive Outcome (value : Value) : Except Fault (List String) → Prop
  | taken {depth : Nat} {core : Value} {texts : List String} (inside : Inside depth core value)
      (offers : Offers depth core texts) : Outcome value (.ok texts)
  | refused {depth : Nat} {core : Value} (inside : Inside depth core value) (isCore : IsCore core)
      (none : ∀ texts, ¬ Offers depth core texts) :
      Outcome value (.error (Value.sequenceFault core))
  | endless (never : NeverEnds value) : Outcome value (.error (.tooDeep .entries))

section Outcomes

variable {value inner : Value}

/-- A value outside any mapping is taken if it is a list of texts. -/
theorem outcome_ofList (isCore : IsCore value) : Outcome value (ofList value) := by
  cases taken : ofList value with
  | ok texts => exact .taken (.here value) (.list 0 (ofList_eq_ok_iff.mp taken))
  | error fault =>
      have shown : fault = Value.sequenceFault value := by
        unfold ofList at taken
        split at taken
        · split at taken <;> cases taken
          rfl
        · cases taken
          rfl
      have none : ∀ texts, ¬ Offers 0 value texts := by
        rintro texts ⟨_, holds⟩
        cases taken.symm.trans (ofList_eq_ok_iff.mpr holds)
      rw [shown]
      exact .refused (.here value) isCore none

/-- One step of the way: a mapping with one entry ends as the entry does. -/
theorem Outcome.entry {key : Value} {result : Except Fault (List String)}
    (outcome : Outcome inner result) (holds : value.opened = .map [(key, inner)])
    (noText : ∀ s, inner ≠ .text s) (noNull : inner ≠ .null) : Outcome value result := by
  cases outcome with
  | taken inside offers =>
      exact .taken (.entry holds inside) ((offers_succ_iff inside noText noNull).mpr offers)
  | refused inside isCore none =>
      refine .refused (.entry holds inside) isCore fun texts offers => ?_
      exact none texts ((offers_succ_iff inside noText noNull).mp offers)
  | endless never => exact .endless (never.entry holds)

/-- An atom inside a mapping: a text and nothing are taken there. -/
theorem outcome_ofAtom {key : Value} {a : Atom} (holds : value.opened = .map [(key, a.value)]) :
    Outcome value (ofAtom a) := by
  cases a with
  | text s => exact .taken (.entry holds (.here _)) (.text 0 s)
  | null => exact .taken (.entry holds (.here _)) (.null 0)
  | _ =>
      refine .refused (.entry holds (.here _)) (fun _ _ => nofun) fun texts offers => ?_
      cases offers with
      | list _ layer => cases layer

/--
The way through numbered parts.  Each part on the way so far leads to this one, so
that a part that is met again leads to itself.
-/
theorem outcome_ofPart (parts : List (Nat × Part)) (way : List Nat) (number : Nat)
    (leads : ∀ met ∈ way, ∃ depth, Inside (depth + 1) (.knot parts number) (.knot parts met)) :
    Outcome (.knot parts number) (ofPart parts way number) := by
  fun_induction ofPart parts way number with
  | case1 way number key a found =>
      have holds : (Value.knot parts number).opened = .map [(key.value, a.value)] := by
        rw [Value.opened_knot found]
        rfl
      exact outcome_ofAtom holds
  | case2 way number key inner found met =>
      -- The part stands on its own way, and what leads to it from there is a cycle.
      obtain ⟨depth, cycle⟩ := leads number (List.contains_iff_mem.mp met)
      exact .endless (neverEnds_of_cycle cycle)
  | case3 way number key inner found new _ ih =>
      have holds : (Value.knot parts number).opened = .map [(key.value, .knot parts inner)] := by
        rw [Value.opened_knot found]
        rfl
      have step : Inside 1 (.knot parts inner) (.knot parts number) := .entry holds (.here _)
      have leadsOn : ∀ other ∈ number :: way,
          ∃ depth, Inside (depth + 1) (.knot parts inner) (.knot parts other) := by
        intro other member
        -- The part at hand leads on in one step, the parts before it through this part.
        cases List.mem_cons.mp member with
        | inl same => exact ⟨0, same ▸ step⟩
        | inr earlier =>
            obtain ⟨depth, outer⟩ := leads other earlier
            exact ⟨depth + 1, outer.trans step⟩
      exact (ih leadsOn).entry holds (fun _ => nofun) nofun
  | case4 way number noAtom noPart =>
      have isCore : IsCore (.knot parts number) := by
        intro key inner holds
        cases found : parts.lookup number with
        | none =>
            rw [Value.opened, found] at holds
            cases holds
        | some part =>
            rw [Value.opened_knot found] at holds
            cases part with
            | map entries =>
                obtain ⟨⟨k, link⟩, rfl, -⟩ := List.map_eq_singleton_iff.mp (Value.map.inj holds)
                cases link with
                | atom a => exact noAtom k a found
                | part next => exact noPart k next found
            | _ => cases holds
      exact outcome_ofList isCore

/-- The whole way: what becomes of a value is settled where the way inwards ends. -/
theorem outcome_ofDocument (value : Value) : Outcome value (ofDocument value) := by
  fun_induction ofDocument value with
  | case1 key s => exact .taken (.entry rfl (.here _)) (.text 0 s)
  | case2 key => exact .taken (.entry rfl (.here _)) (.null 0)
  | case3 key inner noText noNull ih => exact ih.entry rfl noText noNull
  | case4 parts root =>
      exact outcome_ofPart parts [] root (fun _ none => absurd none List.not_mem_nil)
  | case5 value _ _ noEntry noKnot =>
      have isCore : IsCore value := by
        intro key inner holds
        cases value with
        | knot parts root => exact noKnot parts root rfl
        | map entries => exact noEntry key inner holds
        | _ => cases holds
      exact outcome_ofList isCore

/-- What is taken is what the end of the way stands for. -/
theorem ofDocument_eq_ok_iff {texts : List String} :
    ofDocument value = .ok texts ↔
      ∃ depth core, Inside depth core value ∧ Offers depth core texts := by
  have outcome := outcome_ofDocument value
  constructor
  · intro taken
    rw [taken] at outcome
    cases outcome with
    | taken inside offers => exact ⟨_, _, inside, offers⟩
  · rintro ⟨depth, core, inside, offers⟩
    generalize ofDocument value = result at outcome
    cases outcome with
    | taken insideOther others =>
        obtain ⟨rfl, rfl⟩ := inside.unique offers.isCore insideOther others.isCore
        rw [offers.unique others]
    | refused insideOther isCore none =>
        obtain ⟨rfl, rfl⟩ := inside.unique offers.isCore insideOther isCore
        exact (none texts offers).elim
    | endless never => exact (never.not_isCore inside offers.isCore).elim

/-- The report of a value that is no sequence is no lack of room on the stack. -/
theorem sequenceFault_ne_tooDeep (core : Value) (descent : Descent) :
    Value.sequenceFault core ≠ .tooDeep descent := by
  intro same
  rw [Value.sequenceFault] at same
  split at same
  · cases same
  · next failed =>
      obtain ⟨rfl, -⟩ := Value.display_eq_error failed
      cases same

/-- The stack runs out on the ways that have no end, and on no others. -/
theorem ofDocument_eq_tooDeep_iff :
    ofDocument value = .error (.tooDeep .entries) ↔ NeverEnds value := by
  have outcome := outcome_ofDocument value
  constructor
  · intro failed
    generalize ofDocument value = result at outcome failed
    cases outcome with
    | taken => cases failed
    | refused => exact (sequenceFault_ne_tooDeep _ _ (Except.error.inj failed)).elim
    | endless never => exact never
  · intro never
    generalize ofDocument value = result at outcome
    cases outcome with
    | taken inside offers => exact (never.not_isCore inside offers.isCore).elim
    | refused inside isCore none => exact (never.not_isCore inside isCore).elim
    | endless => rfl

/-- What is no sequence is refused with a report that shows the end of the way. -/
theorem ofDocument_of_refused (short : value.IntegersShort) (ends : ¬ NeverEnds value)
    (refused : ∀ texts, ofDocument value ≠ .ok texts) :
    ∃ depth core words, Inside depth core value ∧ IsCore core ∧
      Value.display core = .ok words ∧ ofDocument value = .error (.notSequence core words) := by
  have outcome := outcome_ofDocument value
  generalize ofDocument value = result at outcome refused ⊢
  cases outcome with
  | taken => exact (refused _ rfl).elim
  | @refused depth core inside isCore none =>
      obtain ⟨words, shown⟩ := core.exists_display (inside.integersShort short)
      refine ⟨depth, core, words, inside, isCore, shown, ?_⟩
      rw [Value.sequenceFault, shown]
  | endless never => exact (ends never).elim

end Outcomes

/-! ## Documents that stand for their own text -/

theorem read_of_text {data : Value} {format : Option String} {s : String}
    (found : Document.read data format = .ok (.text s)) :
    read data format = .error (.notSequence (.text s) (quoted s)) := by
  rw [read, found]
  rfl

end RawSequence

namespace Document

/-- Without a known format, or malformed in it, a document is its own text. -/
theorem read_of_malformed {data : Value} {format : Option String} {s : String}
    (text : textOf data = .ok s)
    (malformed : ∀ known, formatFor? format s = some known →
      parse s known = .error .malformed) :
    read data format = .ok (.text s) := by
  simp only [read, text, bind, Except.bind]
  split
  · next known found =>
      rw [readAs_eq, malformed known found]
      rfl
  · rfl

end Document

namespace PathSpec

/-- Nothing is looked up or asked for a document that holds no sequence. -/
theorem load_of_refused {data : Value} {format : Option String} {fault : Fault}
    (refused : RawSequence.read data format = .error fault) (world : World) (config : Config)
    (providers : World → Providers) :
    load world config providers data format = ⟨[], .error fault⟩ := by
  rw [load, refused]
  exact Traced.bind_of_error rfl _

end PathSpec

namespace RawSequence

/-- What is taken for a raw sequence: a list of texts inside any number of mappings with one
entry each, and inside at least one of them a lone text or nothing.  Every other value without
overlong integers is refused by the value at which the mappings end, unless they never end: then
the stack runs out.  A document that stands for its own text is never taken. -/
theorem ofDocument_meaning (value data : Value) (format : Option String) (s : String) :
    (∀ texts, ofDocument value = .ok texts ↔
      ∃ depth core, Inside depth core value ∧ Offers depth core texts) ∧
    (value.IntegersShort → ¬ NeverEnds value → (∀ texts, ofDocument value ≠ .ok texts) →
      ∃ depth core words, Inside depth core value ∧ IsCore core ∧
        Value.display core = .ok words ∧
        ofDocument value = .error (.notSequence core words)) ∧
    (ofDocument value = .error (.tooDeep .entries) ↔ NeverEnds value) ∧
    (Document.textOf data = .ok s →
      (∀ known, Document.formatFor? format s = some known →
        Document.parse s known = .error .malformed) →
      Document.read data format = .ok (.text s)) ∧
    (Document.read data format = .ok (.text s) →
      ∀ world config providers, PathSpec.load world config providers data format =
        ⟨[], .error (.notSequence (.text s) (quoted s))⟩) := by
  refine ⟨?_, ?_, ?_, ?_, ?_⟩
  · intro texts
    exact ofDocument_eq_ok_iff
  · intro short ends refused
    exact ofDocument_of_refused short ends refused
  · exact ofDocument_eq_tooDeep_iff
  · intro known malformed
    exact Document.read_of_malformed known malformed
  · intro found world config providers
    have noSequence : read data format = .error (.notSequence (.text s) (quoted s)) :=
      read_of_text found
    exact PathSpec.load_of_refused noSequence world config providers

/-- A text in two mappings is taken; a text beside another, one level down, is refused by its
mapping; and a line without a key is no TOML. -/
theorem ofDocument_meaning_of_two_mappings :
    let pair : Value := .map [(.text "b", .text "x"), (.text "c", .text "y")]
    ofDocument (.map [(.text "a", .map [(.int 1, .text "x")])]) = .ok ["x"] ∧
      (∃ words, ofDocument (.map [(.text "a", pair)]) = .error (.notSequence pair words)) ∧
      ∀ world config providers,
        PathSpec.load world config providers (.bytes [61]) (some "toml") =
          ⟨[], .error (.notSequence (.text "=") (quoted "="))⟩ := by
  intro pair
  have inPair : Inside 1 pair (.map [(.text "a", pair)]) := .entry rfl (.here pair)
  have isCorePair : IsCore pair := by
    simp [IsCore, Value.opened, pair]
  refine ⟨?_, ?_, ?_⟩
  · obtain ⟨taken, -⟩ := ofDocument_meaning (.map [(.text "a", .map [(.int 1, .text "x")])])
      (.bytes [61]) (some "toml") "="
    exact (taken ["x"]).mpr ⟨2, .text "x", .entry rfl (.entry rfl (.here _)), .text 1 "x"⟩
  · have short : (Value.map [(.text "a", pair)]).IntegersShort := by
      have text : ∀ s, (Value.text s).IntegersShort := by
        intro s n inside
        cases inside
      have inner : pair.IntegersShort :=
        Value.integersShort_map (by simp [text])
      exact Value.integersShort_map (by simp [text, inner])
    have ends : ¬ NeverEnds (.map [(.text "a", pair)]) := by
      intro never
      exact never.not_isCore inPair isCorePair
    have untaken : ∀ texts, ofDocument (.map [(.text "a", pair)]) ≠ .ok texts := by
      intro texts taken
      cases taken
    obtain ⟨-, refused, -⟩ := ofDocument_meaning (.map [(.text "a", pair)])
      (.bytes [61]) (some "toml") "="
    obtain ⟨depth, core, words, inside, isCore, -, failed⟩ := refused short ends untaken
    obtain ⟨-, same⟩ := inside.unique isCore inPair isCorePair
    exact ⟨words, same ▸ failed⟩
  · obtain ⟨-, -, -, unread, untaken⟩ := ofDocument_meaning pair (.bytes [61]) (some "toml") "="
    exact untaken (unread rfl (fun known same => by cases same; rfl))

/-- A mapping whose only entry holds the mapping itself. -/
def selfMapping : Value :=
  .knot [(0, .map [(.text "x", .part 0)])] 0

theorem read_selfMapping :
    Document.read (.text "&a \x7bx: *a\x7d\n") (some "yaml") = .ok selfMapping := by
  have tokens : Yaml.tokensOf "&a \x7bx: *a\x7d\n".toList =
      [.anchor "a", .flowMappingStart, .key, .scalar "x" true, .value, .alias "a",
        .flowMappingEnd, .streamEnd] := rfl
  have read : Yaml.graphOf? "&a \x7bx: *a\x7d\n".toList = .ok (some (0, Yaml.selfGraph "x")) := by
    rw [Yaml.graphOf?, tokens]
    rfl
  have parsed : Yaml.read "&a \x7bx: *a\x7d\n" = .ok selfMapping := by
    have allowed : "&a \x7bx: *a\x7d\n".toList.all Yaml.isAllowed = true := rfl
    rw [Yaml.read, allowed, read]
    exact Yaml.graphValue_selfGraph "x"
  have text : Document.textOf (.text "&a \x7bx: *a\x7d\n") = .ok "&a \x7bx: *a\x7d\n" := rfl
  have format : Document.formatFor? (some "yaml") "&a \x7bx: *a\x7d\n" = some .yaml := rfl
  simp only [Document.read, text, format, bind, Except.bind, Document.readAs, parsed]
  rfl

/-- A way that does not end is no end of a way, and so it is not refused as a sequence. -/
theorem not_refused_of_selfMapping :
    read (.text "&a \x7bx: *a\x7d\n") (some "yaml") = .error (.tooDeep .entries) ∧
      selfMapping.IntegersShort ∧ (∀ texts, ofDocument selfMapping ≠ .ok texts) ∧
      ∀ core words, ofDocument selfMapping ≠ .error (.notSequence core words) := by
  have cycle : Inside 1 selfMapping selfMapping := .entry rfl (.here selfMapping)
  have failed : ofDocument selfMapping = .error (.tooDeep .entries) :=
    ofDocument_eq_tooDeep_iff.mpr (neverEnds_of_cycle cycle)
  have short : selfMapping.IntegersShort := by
    intro n inside
    have none : ∀ {value : Value}, value.HasInteger n → value ≠ .text "x" ∧
        value ≠ .map [(.text "x", selfMapping)] ∧ value ≠ selfMapping := by
      intro value inside
      induction inside with
      | here | list | tuple | set => exact ⟨nofun, nofun, nofun⟩
      | key member _ ih =>
          refine ⟨nofun, ?_, nofun⟩
          rintro ⟨⟩
          obtain ⟨rfl, -⟩ := Prod.mk.inj (List.mem_singleton.mp member)
          exact ih.1 rfl
      | value member _ ih =>
          refine ⟨nofun, ?_, nofun⟩
          rintro ⟨⟩
          obtain ⟨-, rfl⟩ := Prod.mk.inj (List.mem_singleton.mp member)
          exact ih.2.2 rfl
      | layer _ ih =>
          refine ⟨nofun, nofun, ?_⟩
          rintro ⟨⟩
          exact ih.2.1 rfl
    exact ((none inside).2.2 rfl).elim
  refine ⟨?_, short, ?_, ?_⟩
  · rw [read, read_selfMapping]
    exact failed
  · intro texts taken
    cases failed.symm.trans taken
  · intro core words refused
    cases failed.symm.trans refused

end RawSequence

end PathExpr

import PathExpr.Format.Yaml.Reader
import PathExpr.Proofs.Format.Refusals

/-!
# Documents of YAML that have no value

A document may give a text a type whose notation the text does not follow, or
that has no value for it, and mappings may hold each other as their plain values
without end.  The construction of a value fails for such texts and mappings alone,
wherever in the document they stand.
-/

namespace PathExpr.Format.Yaml

open Std.Do PathExpr.Number

set_option mvcgen.warning false

/-- The faults of what a document of YAML gives a type for. -/
@[grind intro]
inductive TextFault : Fault → Prop
  | tooManyDigits (count : Nat) (many : digitLimit < count) :
    TextFault (.tooManyDigits (some count))
  | notInteger (base : Nat) (literal : String)
      (none : readInteger base literal = .error .malformed) : TextFault (.notInteger base literal)
  | notFloat (literal : String) (none : readFloat literal = none) : TextFault (.notFloat literal)
  | emptyNumber : TextFault .emptyNumber
  | beyondFloat (n : Nat) (large : Nat.pow 2 1024 ≤ n) : TextFault .beyondFloat
  | notSwitchWord (word : String) (unknown : truthWords.lookup word = none) :
    TextFault (.notSwitchWord word)
  | date (year month day : Nat) (flaw : CalendarFlaw)
      (none : Date.make year month day = .error flaw) : TextFault (.calendar flaw)
  | time (hour minute second micro : Nat) (flaw : CalendarFlaw)
      (none : TimeOfDay.make hour minute second micro = .error flaw) : TextFault (.calendar flaw)
  | notTimestamp : TextFault .notTimestamp
  /-- A mapping stands where the text of a moment is wanted. -/
  | notText : TextFault (.notText "list")
  | offsetRange (seconds : Int) (far : 86400 ≤ seconds.natAbs) : TextFault (.offsetRange seconds)
  | codeTooLarge : TextFault .codeTooLarge
  | codePoint : TextFault .codePoint
  /-- Mappings hold each other as their plain values. -/
  | plainValue : TextFault (.tooDeep .plainValue)

/-! ## Atoms -/

/-- An integer is too long when it has more digits than the limit allows. -/
theorem digitLimit_of_tooLong {base digits : Nat} {s : String}
    (long : readInteger base s = .error (.tooLong digits)) : digitLimit < digits := by
  unfold readInteger at long
  grind

/-- An integer in a base either has a value, or has too many digits, or is none. -/
@[spec]
theorem readBase_spec (base : Nat) (cs : List Char) :
    ⦃⌜True⌝⦄ readBase base cs ⦃Ends (fun _ => True) TextFault⦄ := by
  unfold readBase
  split
  · mvcgen
  · next long => exact fun _ => .tooManyDigits _ (digitLimit_of_tooLong long)
  · next none => exact fun _ => .notInteger _ _ none

@[spec]
theorem readPlainFloat_spec (cs : List Char) :
    ⦃⌜True⌝⦄ readPlainFloat cs ⦃Ends (fun _ => True) TextFault⦄ := by
  unfold readPlainFloat
  split
  · mvcgen
  · next none => exact fun _ => .notFloat _ none

/-- What every step of a row keeps, the row keeps. -/
theorem mapM_spec {m : Type → Type} {ps : PostShape} [Monad m] [WPMonad m ps] {α β : Type}
    {step : α → m β} {kept : Assertion ps} {faults : ExceptConds ps}
    (each : ∀ part, ⦃kept⦄ step part ⦃(fun _ => kept, faults)⦄) (parts : List α) :
    ⦃kept⦄ parts.mapM step ⦃(fun _ => kept, faults)⦄ := by
  induction parts with
  | nil =>
      rw [List.mapM_nil]
      mvcgen
  | cons part rest ih =>
      rw [List.mapM_cons]
      mvcgen [each, ih]

/-- The parts of a number in base sixty are integers themselves, and fail as these do. -/
@[spec]
theorem intOf_spec (text : String) : ⦃⌜True⌝⦄ intOf text ⦃Ends (fun _ => True) TextFault⦄ := by
  have parts := mapM_spec (@readBase_spec 10)
  mvcgen [intOf, parts] <;> grind

/-- A number from which no float can be made is at least as large as the first power beyond them. -/
@[spec]
theorem floatOfNat_spec (n : Nat) :
    ⦃⌜True⌝⦄ floatOfNat n ⦃Ends (fun _ => True) TextFault⦄ := by
  unfold floatOfNat
  split
  · next large => exact fun _ => .beyondFloat n large
  · mvcgen

@[spec]
theorem sexagesimalSum_spec (unit : Nat) (total : Float) (parts : List Float) :
    ⦃⌜True⌝⦄ sexagesimalSum unit total parts ⦃Ends (fun _ => True) TextFault⦄ := by
  induction parts generalizing unit total with
  | nil => mvcgen [sexagesimalSum]
  | cons part rest ih => mvcgen [sexagesimalSum, ih]

/-- An empty text, an integer beyond the floats and a text that is no float: a float fails for
these. -/
@[spec]
theorem floatOf_spec (text : String) :
    ⦃⌜True⌝⦄ floatOf text ⦃Ends (fun _ => True) TextFault⦄ := by
  have parts := mapM_spec @readPlainFloat_spec
  unfold floatOf
  dsimp only
  split
  · exact fun _ => .emptyNumber
  · split
    · exact fun _ => trivial
    · split
      · exact fun _ => trivial
      · split
        · mvcgen [parts]
        · mvcgen

@[spec]
theorem boolOf_spec (text : String) : ⦃⌜True⌝⦄ boolOf text ⦃Ends (fun _ => True) TextFault⦄ := by
  mvcgen [boolOf]
  grind

/-- A moment fails for a date, a time or an offset that does not exist, or for a text that is
none. -/
@[spec]
theorem stampOf_spec (text : String) :
    ⦃⌜True⌝⦄ stampOf text ⦃Ends (fun _ => True) TextFault⦄ := by
  mvcgen [stampOf] <;> grind

/-- Bytes that cannot be decoded make the document malformed and are no fault. -/
@[spec]
theorem binaryOf_spec (text : String) {allowed : Fault → Prop} :
    ⦃⌜True⌝⦄ binaryOf text ⦃Ends (fun _ => True) allowed⦄ := by
  unfold binaryOf
  split
  · cases Base64.decode text.toList with
    | none => exact fun _ => trivial
    | some bytes => exact fun _ => trivial
  · mvcgen

@[spec]
theorem atomOf_spec (tag : Tag) (text : String) :
    ⦃⌜True⌝⦄ atomOf tag text ⦃Ends (fun _ => True) TextFault⦄ := by
  mvcgen [atomOf]

/-- The text of a mapping is that of its plain value; the search for it may come back to a
mapping. -/
@[spec]
theorem plainText_spec (graph : Graph) (way : List Nat) (number : Nat) :
    ⦃⌜True⌝⦄ plainText graph way number ⦃Ends (fun _ => True) TextFault⦄ := by
  fun_induction plainText graph way number with
  | case1 => mvcgen
  | case2 => mvcgen
  | case3 => exact fun _ => .plainValue
  | case4 _ _ _ _ _ _ _ _ _ _ _ ih => exact ih
  | case5 => mvcgen

/-- Where a moment is wanted of a mapping that has a plain value, the text is missing. -/
@[spec]
theorem atomAt_spec (graph : Graph) (number : Nat) (node : Node) :
    ⦃⌜True⌝⦄ atomAt graph number node ⦃Ends (fun _ => True) TextFault⦄ := by
  mvcgen [atomAt]
  grind

/-! ## Collections -/

/-- The construction goes on, or is malformed, or has the fault of a text or a mapping in it. -/
abbrev Settles {α : Type} : PostCond α (.arg Building (.except Refusal .pure)) :=
  post⟨fun _ _ => ⌜True⌝, fun why => ⌜why.Within TextFault⌝⟩

@[spec]
theorem reject_spec {α : Type} : ⦃⌜True⌝⦄ (reject : Construction α) ⦃Settles⦄ := by
  exact fun _ _ => trivial

@[spec]
theorem nodeAt_spec (number : Nat) : ⦃⌜True⌝⦄ nodeAt number ⦃Settles⦄ := by
  mvcgen [nodeAt]

@[spec]
theorem changeNode_spec (number : Nat) (change : Node → Node) :
    ⦃⌜True⌝⦄ changeNode number change ⦃Settles⦄ := by
  mvcgen [changeNode]

@[spec]
theorem entriesAt_spec (number : Nat) : ⦃⌜True⌝⦄ entriesAt number ⦃Settles⦄ := by
  mvcgen [entriesAt]

section Merges

variable {flatten : Nat → Construction Unit}
  (flattens : ∀ number, ⦃⌜True⌝⦄ flatten number ⦃Settles⦄)

include flattens

/-- The entries that a merge takes over are those of a mapping, or of the mappings in a list. -/
theorem takenOver_spec (source : Nat) : ⦃⌜True⌝⦄ takenOver flatten source ⦃Settles⦄ := by
  have item : ∀ item, ⦃⌜True⌝⦄ (do
      let _ ← entriesAt item
      flatten item
      entriesAt item) ⦃Settles⦄ := by
    intro item
    mvcgen [flattens]
  have items := mapM_spec item
  mvcgen [takenOver, flattens, items]

/-- The induction is on the entries that are still to be looked at; those kept come along. -/
theorem takeMerges_spec (number : Nat) (kept entries : List (Nat × Nat)) :
    ⦃⌜True⌝⦄ takeMerges flatten number kept entries ⦃Settles⦄ := by
  have taken := takenOver_spec flattens
  induction entries generalizing kept with
  | nil => mvcgen [takeMerges]
  | cons entry rest ih => mvcgen [takeMerges, taken, ih]

end Merges

/-- Merging mappings makes no fault. -/
@[spec]
theorem flatten_spec (bound number : Nat) : ⦃⌜True⌝⦄ flatten bound number ⦃Settles⦄ := by
  induction bound generalizing number with
  | zero => mvcgen [flatten]
  | succ bound ih =>
      have merges := takeMerges_spec ih
      mvcgen [flatten, merges]

@[spec]
theorem flatEntries_spec (number : Nat) : ⦃⌜True⌝⦄ flatEntries number ⦃Settles⦄ := by
  mvcgen [flatEntries]

@[spec]
theorem make_spec (number : Nat) : ⦃⌜True⌝⦄ make number ⦃Settles⦄ := by
  mvcgen [make]

@[spec]
theorem makeLink_spec (number : Nat) : ⦃⌜True⌝⦄ makeLink number ⦃Settles⦄ := by
  mvcgen [makeLink]

/-- A key that holds parts is malformed; otherwise entries fail for their scalars only. -/
@[spec]
theorem makeEntries_spec (bound : List (Key × Link)) (entries : List (Nat × Nat)) :
    ⦃⌜True⌝⦄ makeEntries bound entries ⦃Settles⦄ := by
  induction entries generalizing bound with
  | nil => mvcgen [makeEntries]
  | cons entry rest ih => mvcgen [makeEntries, ih]

@[spec]
theorem makePair_spec (number : Nat) : ⦃⌜True⌝⦄ makePair number ⦃Settles⦄ := by
  mvcgen [makePair]

/-- Lists, sets, pairs and mappings are filled with the links to what stands in them. -/
@[spec]
theorem partAt_spec (number : Nat) : ⦃⌜True⌝⦄ partAt number ⦃Settles⦄ := by
  have links := mapM_spec makeLink_spec
  have pairs := mapM_spec makePair_spec
  mvcgen [partAt, links, pairs]

/-- Filling a collection may make others wait; the bound counts those that are filled. -/
@[spec]
theorem fillAll_spec (bound : Nat) : ⦃⌜True⌝⦄ fillAll bound ⦃Settles⦄ := by
  induction bound with
  | zero => mvcgen [fillAll]
  | succ bound ih => mvcgen [fillAll, ih]

/-- A graph of nodes that has no value is malformed or has the fault of a text or a mapping. -/
@[spec]
theorem graphValue_spec (root : Nat) (graph : Graph) :
    ⦃⌜True⌝⦄ graphValue root graph ⦃Ends (fun _ => True) TextFault⦄ := by
  let construction : Construction Link := do
    let link ← makeLink root
    fillAll (graph.length + 1)
    return link
  have settles : ⦃fun _ => ⌜True⌝⦄ construction ⦃Settles⦄ := by
    mvcgen [construction]
  show ⦃⌜True⌝⦄ (construction.run ⟨graph, [], [], []⟩ >>= _) ⦃Ends (fun _ => True) TextFault⦄
  cases built : construction.run ⟨graph, [], [], []⟩ with
  | ok result => exact fun _ => trivial
  | error why => exact fun _ => refusal_of_run settles trivial built

end PathExpr.Format.Yaml

import PathExpr.Proofs.Format.Json.Scalar

/-!
# The parts of a document are read back

A part of a document is read up to its end because what follows it is a gap, a
comma or a closing bracket, and no part begins with one of these.  The parts of
a sequence and of a mapping are read by the same steps, and what holds of them
is stated for both at once.
-/

namespace PathExpr.Format.Json

open PathExpr.Number PathExpr.Text

/-! ## Where parts begin and end -/

/-- Whether the character stands between or behind parts, and not at the start of one. -/
def isStop (c : Char) : Bool :=
  isGap c || c == ',' || c == ']' || c == '\x7d'

/-- What may follow a part. -/
def Stops (rest : List Char) : Prop :=
  ∀ c ∈ rest.head?, isStop c = true

/-- What a part may look like at its start. -/
def Starts (body : List Char) : Prop :=
  ∃ lead rest, body = lead :: rest ∧ isStop lead = false

/-- Only gaps. -/
def Gap (cs : List Char) : Prop :=
  ∀ c ∈ cs, isGap c = true

theorem Stops.closesNumber {rest : List Char} (stops : Stops rest) : ClosesNumber rest := by
  intro c first
  have stop := stops c first
  simp only [isStop, isGap, Bool.or_eq_true, beq_iff_eq] at stop
  rcases stop with (((((rfl | rfl) | rfl) | rfl) | rfl) | rfl) | rfl <;> decide

theorem gap_nil : Gap [] := by
  intro c member
  cases member

theorem gap_singleton {c : Char} (gap : isGap c = true) : Gap [c] := by
  intro other member
  rw [List.mem_singleton.mp member, gap]

theorem Gap.stops {gap : List Char} (isGap : Gap gap) {rest : List Char} (stops : Stops rest) :
    Stops (gap ++ rest) := by
  intro c first
  cases gap with
  | nil => exact stops c first
  | cons lead gap =>
      obtain rfl : lead = c := Option.some.inj first
      simp [isStop, isGap lead List.mem_cons_self]

theorem Gap.skipGap {gap : List Char} (isGap : Gap gap) (rest : List Char) :
    skipGap (gap ++ rest) = skipGap rest :=
  List.dropWhile_append_of_pos isGap

theorem skipGap_cons {c : Char} (solid : isGap c = false) (rest : List Char) :
    skipGap (c :: rest) = c :: rest := by
  simp [skipGap, solid]

theorem Starts.append {body : List Char} (starts : Starts body) (rest : List Char) :
    Starts (body ++ rest) := by
  obtain ⟨lead, others, rfl, start⟩ := starts
  exact ⟨lead, others ++ rest, rfl, start⟩

theorem Starts.skipGap {body : List Char} (starts : Starts body) : skipGap body = body := by
  obtain ⟨lead, others, rfl, start⟩ := starts
  have solid : isGap lead = false := by
    simp only [isStop, Bool.or_eq_false_iff] at start
    exact start.1.1.1
  exact skipGap_cons solid others

theorem gap_lineStart (pretty : Bool) (level : Nat) : Gap (lineStart pretty level) := by
  intro c member
  cases pretty with
  | false => cases member
  | true =>
      rcases List.mem_cons.mp member with rfl | space
      · rfl
      · rw [List.eq_of_mem_replicate space]
        rfl

/-- A separation is a comma and a gap. -/
theorem separation_eq (pretty : Bool) (level : Nat) :
    ∃ gap, Gap gap ∧ separation pretty level = ',' :: gap := by
  cases pretty with
  | false => exact ⟨[' '], gap_singleton rfl, rfl⟩
  | true => exact ⟨_, gap_lineStart true level, rfl⟩

/-! ## Scalars -/

/-- The characters are read as the value, whatever may follow them. -/
structure ReadsAs (body : List Char) (value : Value) : Prop where
  starts : Starts body
  reads : ∀ fuel rest, body.length ≤ fuel → Stops rest →
    readValue fuel (body ++ rest) = .ok (value, rest)

/-- Characters take some fuel. -/
theorem ReadsAs.of_succ {body : List Char} {value : Value} (starts : Starts body)
    (reads : ∀ fuel rest, body.length ≤ fuel + 1 → Stops rest →
      readValue (fuel + 1) (body ++ rest) = .ok (value, rest)) : ReadsAs body value := by
  refine ⟨starts, ?_⟩
  intro fuel rest enough stops
  cases fuel with
  | zero =>
      obtain ⟨lead, others, rfl, start⟩ := starts
      cases enough
  | succ fuel => exact reads fuel rest enough stops

/-- A scalar is read by the reader of scalars. -/
theorem readsAs_scalar {lead : Char} {others : List Char} {value : Value}
    (start : isStop lead = false) (scalar : lead ∉ ['"', '[', '\x7b'])
    (reads : ∀ rest, Stops rest → readScalar (lead :: others ++ rest) = .ok (value, rest)) :
    ReadsAs (lead :: others) value := by
  simp only [List.mem_cons, List.not_mem_nil, or_false, not_or] at scalar
  refine .of_succ ⟨lead, others, rfl, start⟩ fun fuel rest _ stops => ?_
  rw [← reads rest stops, List.cons_append, readValue]
  · intro after same
    exact scalar.1 (List.cons.inj same).1
  · intro after same
    exact scalar.2.1 (List.cons.inj same).1
  · intro after same
    exact scalar.2.2 (List.cons.inj same).1

theorem readsAs_null : ReadsAs nullWord .null :=
  readsAs_scalar rfl (by decide) fun _ _ => rfl

theorem readsAs_bool (b : Bool) : ReadsAs (writeBool b) (.bool b) := by
  cases b with
  | false => exact readsAs_scalar rfl (by decide) fun _ _ => rfl
  | true => exact readsAs_scalar rfl (by decide) fun _ _ => rfl

theorem readsAs_text (s : String) : ReadsAs (writeText s) (.text s) := by
  refine .of_succ ⟨'"', _, rfl, rfl⟩ fun fuel rest _ _ => ?_
  have read : readText (s.toList.flatMap escapedChar ++ '"' :: rest) = some (s, rest) :=
    readText_flatMap s rest
  simp [writeText, readValue, read, require, bind, Except.bind, pure, Except.pure]

theorem isStop_of_isDigit {c : Char} (digit : isDigit c = true) : isStop c = false := by
  refine eq_false_of_ne_true fun stop => ?_
  have stops : Stops [c] := by
    rintro _ ⟨⟩
    exact stop
  cases digit.symm.trans (stops.closesNumber c rfl).1

theorem readsAs_int {n : Int} (short : n.natAbs < 10 ^ digitLimit) :
    ReadsAs (toString n).toList (.int n) := by
  have reads (rest : List Char) (stops : Stops rest) := readScalar_int short stops.closesNumber
  obtain ⟨lead, others, written, sign_or_digit⟩ := toString_starts n
  rw [written] at reads ⊢
  refine readsAs_scalar ?_ ?_ reads
  · rcases sign_or_digit with rfl | digit
    · rfl
    · exact isStop_of_isDigit digit
  · intro member
    simp only [List.mem_cons, List.not_mem_nil, or_false] at member
    rcases sign_or_digit with rfl | digit
    · revert member
      decide
    · rcases member with rfl | rfl | rfl <;> exact absurd digit (by decide)

/-! ## Parts -/

section Parts

variable {α : Type} {readParts : Nat → List Char → Reading (List α × List Char)} {close : Char}
variable {part : α} {parts : List α} {first body : List Char}

/--
The characters are read as the part by one step of the reader of parts, which
either ends behind the closing bracket or goes on behind a comma.
-/
structure PartReadsAs (readParts : Nat → List Char → Reading (List α × List Char)) (close : Char)
    (body : List Char) (part : α) : Prop where
  starts : Starts body
  last : ∀ fuel tail rest, body.length ≤ fuel → Stops tail → skipGap tail = close :: rest →
    readParts (fuel + 1) (body ++ tail) = .ok ([part], rest)
  more : ∀ fuel tail next parts rest, body.length ≤ fuel → Stops tail →
    skipGap tail = ',' :: next → readParts fuel (skipGap next) = .ok (parts, rest) →
      readParts (fuel + 1) (body ++ tail) = .ok (part :: parts, rest)

/-- The characters are read as the parts, up to the closing bracket. -/
structure PartsReadAs (readParts : Nat → List Char → Reading (List α × List Char)) (close : Char)
    (body : List Char) (parts : List α) : Prop where
  starts : Starts body
  reads : ∀ fuel gap rest, body.length < fuel → Gap gap →
    readParts fuel (body ++ (gap ++ close :: rest)) = .ok (parts, rest)

theorem PartReadsAs.single (only : PartReadsAs readParts close first part)
    (stop : isStop close = true) (solid : isGap close = false) :
    PartsReadAs readParts close first [part] := by
  refine ⟨only.starts, ?_⟩
  intro fuel gap rest enough isGap
  cases fuel with
  | zero => cases enough
  | succ fuel =>
      refine only.last fuel _ rest (by omega) (isGap.stops ?_) ?_
      · rintro c ⟨⟩
        exact stop
      · rw [isGap.skipGap, skipGap_cons solid]

theorem PartReadsAs.cons (head : PartReadsAs readParts close first part)
    (tail : PartsReadAs readParts close body parts) {between : List Char} (blank : Gap between) :
    PartsReadAs readParts close (first ++ (',' :: between ++ body)) (part :: parts) := by
  refine ⟨head.starts.append _, ?_⟩
  intro fuel gap rest enough isGap
  cases fuel with
  | zero => cases enough
  | succ fuel =>
      -- This part takes one unit of fuel, and the comma has paid for it.
      simp only [List.length_append, List.length_cons] at enough
      have others := tail.reads fuel gap rest (by omega) isGap
      have found : skipGap (between ++ body ++ (gap ++ close :: rest)) =
          body ++ (gap ++ close :: rest) := by
        rw [List.append_assoc, blank.skipGap, (tail.starts.append _).skipGap]
      rw [List.append_assoc]
      refine head.more fuel _ (between ++ body ++ (gap ++ close :: rest)) parts rest (by omega) ?_
        rfl ?_
      · rintro c ⟨⟩
        rfl
      · rw [found, others]

/-- Writes parts, each with the separation before it. -/
def writeParts (pretty : Bool) (level : Nat) (writePart : α → Except Fault (List Char)) :
    List α → Except Fault (List Char)
  | [] => .ok []
  | part :: rest => do
    let body ← writePart part
    let others ← writeParts pretty level writePart rest
    return separation pretty level ++ body ++ others

/-- Parts that are read back one by one are read back in a row. -/
theorem PartReadsAs.writeParts (stop : isStop close = true) (solid : isGap close = false)
    {writePart : α → Except Fault (List Char)} (pretty : Bool) (level : Nat)
    (head : PartReadsAs readParts close first part)
    (each : ∀ part ∈ parts, ∃ body,
      writePart part = .ok body ∧ PartReadsAs readParts close body part) :
    ∃ others, writeParts pretty level writePart parts = .ok others ∧
      PartsReadAs readParts close (first ++ others) (part :: parts) := by
  induction parts generalizing first part with
  | nil => exact ⟨[], rfl, (List.append_nil first).symm ▸ head.single stop solid⟩
  | cons next parts ih =>
      obtain ⟨body, written, reads⟩ := each next List.mem_cons_self
      obtain ⟨others, writtenOthers, readsOthers⟩ :=
        ih reads fun part member => each part (List.mem_cons_of_mem next member)
      obtain ⟨gap, blank, separated⟩ := separation_eq pretty level
      refine ⟨separation pretty level ++ body ++ others, ?_, ?_⟩
      · rw [Json.writeParts, written, writtenOthers]
        rfl
      · rw [separated, List.append_assoc]
        exact head.cons readsOthers blank

end Parts

/-! ## Sequences and mappings -/

section Nesting

variable {body : List Char} {value : Value}

theorem ReadsAs.item (reads : ReadsAs body value) : PartReadsAs readItems ']' body value := by
  refine ⟨reads.starts, ?_, ?_⟩
  · intro fuel tail rest enough stops ends
    rw [readItems, reads.reads fuel tail enough stops]
    simp [ends, bind, Except.bind, pure, Except.pure]
  · intro fuel tail next parts rest enough stops goesOn others
    rw [readItems, reads.reads fuel tail enough stops]
    simp [goesOn, others, bind, Except.bind, pure, Except.pure]

/-- Behind a key and its value the members end or go on. -/
theorem ReadsAs.readMembers (reads : ReadsAs body value) (key : String) {fuel : Nat}
    {tail : List Char} (enough : body.length ≤ fuel) (stops : Stops tail) :
    readMembers (fuel + 1) (writeText key ++ ':' :: ' ' :: body ++ tail) =
      (match skipGap tail with
      | '\x7d' :: rest => .ok ([(.text key, value)], rest)
      | ',' :: next => do
        let (entries, rest) ← Json.readMembers fuel (skipGap next)
        return ((.text key, value) :: entries, rest)
      | _ => malformed) := by
  have opened : writeText key ++ ':' :: ' ' :: body ++ tail =
      '"' :: (key.toList.flatMap escapedChar ++ '"' :: ':' :: ' ' :: (body ++ tail)) := by
    simp [writeText]
  have colon : skipGap (':' :: ' ' :: (body ++ tail)) = ':' :: ' ' :: (body ++ tail) :=
    skipGap_cons rfl _
  have space : skipGap (' ' :: (body ++ tail)) = body ++ tail :=
    (reads.starts.append tail).skipGap
  rw [opened, Json.readMembers, readText_flatMap]
  simp only [require, colon, space, reads.reads fuel tail enough stops, bind, Except.bind]
  rfl

theorem ReadsAs.member (reads : ReadsAs body value) (key : String) :
    PartReadsAs Json.readMembers '\x7d' (writeText key ++ ':' :: ' ' :: body)
      (.text key, value) := by
  refine ⟨⟨'"', _, rfl, rfl⟩, ?_, ?_⟩
  · intro fuel tail rest enough stops ends
    simp only [List.length_append, List.length_cons] at enough
    rw [reads.readMembers key (by omega) stops, ends]
    rfl
  · intro fuel tail next parts rest enough stops goesOn others
    simp only [List.length_append, List.length_cons] at enough
    rw [reads.readMembers key (by omega) stops, goesOn]
    simp only [others]
    rfl

/-- What stands in the brackets is read as the parts, gaps at both ends included. -/
theorem PartsReadAs.inBrackets {α : Type} {parts : List α} {close : Char}
    {readParts : Nat → List Char → Reading (List α × List Char)} {before body after : List Char}
    (reads : PartsReadAs readParts close body parts) (blankBefore : Gap before)
    (blankAfter : Gap after) {fuel : Nat} (enough : body.length < fuel) (rest : List Char) :
    ∃ inner, skipGap (before ++ body ++ after ++ [close] ++ rest) = inner ∧ Starts inner ∧
      readParts fuel inner = .ok (parts, rest) := by
  refine ⟨body ++ (after ++ close :: rest), ?_, reads.starts.append _, ?_⟩
  · simp only [List.append_assoc]
    rw [blankBefore.skipGap]
    exact (reads.starts.append _).skipGap
  · exact reads.reads fuel after rest enough blankAfter

variable {before after : List Char}

/-- Items between brackets are read as a sequence. -/
theorem PartsReadAs.list {items : List Value} (reads : PartsReadAs readItems ']' body items)
    (blankBefore : Gap before) (blankAfter : Gap after) :
    ReadsAs ('[' :: before ++ body ++ after ++ [']']) (.list items) := by
  refine .of_succ ⟨'[', _, rfl, rfl⟩ fun fuel rest enough _ => ?_
  simp only [List.length_append, List.length_cons] at enough
  obtain ⟨inner, found, ⟨lead, others, rfl, start⟩, read⟩ :=
    reads.inBrackets blankBefore blankAfter (show body.length < fuel by omega) rest
  simp only [List.cons_append, Json.readValue, found]
  split
  · next same =>
    cases (List.cons.inj same).1
    cases start
  · rw [read]
    rfl

/-- Members between brackets are read as a mapping, with repeated keys merged. -/
theorem PartsReadAs.map {entries : List (Value × Value)}
    (reads : PartsReadAs Json.readMembers '\x7d' body entries) (blankBefore : Gap before)
    (blankAfter : Gap after) :
    ReadsAs ('\x7b' :: before ++ body ++ after ++ ['\x7d'])
      (.map (Value.mergeEntries entries)) := by
  refine .of_succ ⟨'\x7b', _, rfl, rfl⟩ fun fuel rest enough _ => ?_
  simp only [List.length_append, List.length_cons] at enough
  obtain ⟨inner, found, ⟨lead, others, rfl, start⟩, read⟩ :=
    reads.inBrackets blankBefore blankAfter (show body.length < fuel by omega) rest
  simp only [List.cons_append, Json.readValue, found]
  split
  · next same =>
    cases (List.cons.inj same).1
    cases start
  · rw [read]
    rfl

theorem readsAs_emptyList : ReadsAs ['[', ']'] (.list []) :=
  .of_succ ⟨'[', _, rfl, rfl⟩ fun _ _ _ _ => rfl

theorem readsAs_emptyMap : ReadsAs ['\x7b', '\x7d'] (.map []) :=
  .of_succ ⟨'\x7b', _, rfl, rfl⟩ fun _ _ _ _ => rfl

end Nesting

end PathExpr.Format.Json

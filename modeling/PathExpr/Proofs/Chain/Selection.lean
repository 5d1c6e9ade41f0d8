import Mathlib.Data.Nat.Find
import PathExpr.Expr.Chain

/-!
# Selection among offers

Both folds over a chain follow one rule.  Every piece makes an offer: nothing
when it is empty, an alternative with the computation of its value, or, in a
project, a chunk that holds no group.  A fold looks at the offers from the left
and carries the value held so far.

Whether an offer ends the chain can be told from it and from the offer behind
it.  This module proves that the fold over offers ends at the least such
position, and that it does exactly what the offers up to there ask for, in
order.  A plain chain and a project chain differ only in what their pieces
offer.
-/

namespace PathExpr.Expr

open PathExpr.Text

/-- What a trimmed piece of a chain offers. -/
inductive Offer where
  /-- An empty piece. -/
  | blank
  /-- An alternative with the computation of its value. -/
  | alternative (answer : Traced (Option String))
  /-- An alternative of a project whose chunk holds no group. -/
  | malformed (chunk : String)

/-- What asking whether a held value exists does. -/
def confirmation (pathExists : String → Bool) (held : String) : List Event :=
  .probe held :: if pathExists held then [] else [.note (.missing held)]

namespace Offer

/-- Whether the piece is empty. -/
def isBlank : Offer → Bool
  | .blank => true
  | _ => false

/-- The value of an alternative, when it has one. -/
def value? : Offer → Option String
  | .alternative answer =>
      match answer.outcome with
      | .ok value => value
      | .error _ => none
  | _ => none

/-- The computation of an alternative ends without a fault. -/
def Answered : Offer → Prop
  | .alternative answer => ∃ value, answer.outcome = .ok value
  | _ => True

/-- What is done at an offer that is reached with nothing held. -/
def events (pathExists : String → Bool) (next : Option Offer) : Offer → List Event
  | .blank => []
  | .malformed chunk => [.note (.malformedGroup chunk)]
  | .alternative answer =>
      answer.events ++
        match (alternative answer).value?, next with
        | some value, some .blank => confirmation pathExists value
        | _, _ => []

/-- How the chain ends at an offer that is reached with nothing held, if it does. -/
def verdict? (pathExists : String → Bool) (next : Option Offer) (offer : Offer) :
    Option Flow :=
  match offer with
  | .blank => none
  | .malformed _ => some (.stop none)
  | .alternative _ =>
      match offer.value?, next with
      | none, _ => none
      | some value, none => some (.keep (some value))
      | some value, some .blank =>
          if pathExists value then some (.stop (some value)) else none
      | some value, some _ => some (.stop (some value))

end Offer

/-- The fold over offers, from a held value on. -/
def select (pathExists : String → Bool) : Option String → List Offer → Traced Flow
  | held, [] => return .keep held
  | none, .blank :: rest => select pathExists none rest
  | none, .alternative answer :: rest => do select pathExists (← answer) rest
  | none, .malformed chunk :: _ => do
      Traced.remark (.malformedGroup chunk)
      return .stop none
  | some value, .blank :: rest => do
      match ← confirmHeld pathExists value with
      | .stop result => return .stop result
      | .keep held => select pathExists held rest
  | some value, _ :: _ => return .stop (some value)

/-! ## One offer -/

theorem confirmHeld_eq (pathExists : String → Bool) (held : String) :
    confirmHeld pathExists held =
      ⟨confirmation pathExists held,
        .ok (if pathExists held then .stop (some held) else .keep none)⟩ := by
  cases present : pathExists held <;>
    simp [confirmHeld, confirmation, present] <;> rfl

/-- A held value is final at an offer that is not blank. -/
theorem select_some_cons (pathExists : String → Bool) {offer : Offer}
    (filled : offer.isBlank = false) (value : String) (rest : List Offer) :
    select pathExists (some value) (offer :: rest) = return .stop (some value) := by
  cases offer with
  | blank => cases filled
  | alternative answer => rfl
  | malformed chunk => rfl

/--
With nothing held, the fold passes over an offer without a verdict and ends at
an offer with one.
-/
theorem select_none_cons (pathExists : String → Bool) {offer : Offer}
    (answered : offer.Answered) (rest : List Offer) :
    select pathExists none (offer :: rest) =
      match offer.verdict? pathExists rest.head? with
      | some flow => ⟨offer.events pathExists rest.head?, .ok flow⟩
      | none =>
          ⟨offer.events pathExists rest.head? ++ (select pathExists none rest).events,
            (select pathExists none rest).outcome⟩ := by
  cases offer with
  | blank =>
      simp [select, Offer.verdict?, Offer.events]
  | malformed chunk =>
      rfl
  | alternative answer =>
      rcases answered with ⟨value, given⟩
      have valued : (Offer.alternative answer).value? = value := by
        simp [Offer.value?, given]
      cases value with
      | none =>
          simp [select, Traced.bind_of_ok given, Offer.verdict?, Offer.events, valued]
      | some value =>
          simp only [select, Traced.bind_of_ok given, Offer.verdict?, Offer.events, valued]
          -- A held value is decided on by the next offer alone.
          cases rest with
          | nil =>
              simp [select]
          | cons next rest =>
              cases next with
              | blank =>
                  cases present : pathExists value <;>
                    simp [select, confirmHeld_eq, present, Traced.bind_of_ok]
              | alternative answer => simp [select]
              | malformed chunk => simp [select]

/-! ## Positions -/

/-- What is done at a position that is reached with nothing held. -/
def eventsAt (pathExists : String → Bool) (offers : List Offer) (i : Nat) : List Event :=
  match offers[i]? with
  | none => []
  | some offer => offer.events pathExists offers[i + 1]?

/-- How the chain ends at a position that is reached with nothing held, if it does. -/
def verdictAt? (pathExists : String → Bool) (offers : List Offer) (i : Nat) : Option Flow :=
  offers[i]?.bind (Offer.verdict? pathExists offers[i + 1]?)

/-- What is done at the first `count` positions, one after the other. -/
def eventsTo (pathExists : String → Bool) (offers : List Offer) (count : Nat) : List Event :=
  (List.range count).flatMap (eventsAt pathExists offers)

section Cons

variable (pathExists : String → Bool) (offer : Offer) (rest : List Offer)

@[simp]
theorem eventsAt_cons_zero :
    eventsAt pathExists (offer :: rest) 0 = offer.events pathExists rest.head? := by
  simp [eventsAt, List.head?_eq_getElem?]

@[simp]
theorem eventsAt_cons_succ (i : Nat) :
    eventsAt pathExists (offer :: rest) (i + 1) = eventsAt pathExists rest i := by
  simp [eventsAt]

@[simp]
theorem verdictAt?_cons_zero :
    verdictAt? pathExists (offer :: rest) 0 = offer.verdict? pathExists rest.head? := by
  simp [verdictAt?, List.head?_eq_getElem?]

@[simp]
theorem verdictAt?_cons_succ (i : Nat) :
    verdictAt? pathExists (offer :: rest) (i + 1) = verdictAt? pathExists rest i := by
  simp [verdictAt?]

theorem eventsTo_cons (count : Nat) :
    eventsTo pathExists (offer :: rest) (count + 1) =
      offer.events pathExists rest.head? ++ eventsTo pathExists rest count := by
  simp [eventsTo, List.range_succ_eq_map, List.flatMap_map]

end Cons

/-- The fold ends at the least position with a verdict; what stands behind it has no say. -/
theorem select_of_verdict (pathExists : String → Bool) {offers : List Offer} {i : Nat}
    (answered : ∀ offer ∈ offers.take (i + 1), offer.Answered) {flow : Flow}
    (here : verdictAt? pathExists offers i = some flow)
    (before : ∀ j < i, verdictAt? pathExists offers j = none) :
    select pathExists none offers = ⟨eventsTo pathExists offers (i + 1), .ok flow⟩ := by
  induction offers generalizing i with
  | nil =>
      simp [verdictAt?] at here
  | cons offer rest ih =>
      rw [List.take_succ_cons] at answered
      rw [select_none_cons pathExists (answered offer List.mem_cons_self), eventsTo_cons]
      cases i with
      | zero =>
          rw [verdictAt?_cons_zero] at here
          simp [here, eventsTo]
      | succ i =>
          have passed : offer.verdict? pathExists rest.head? = none := by
            simpa using before 0 (Nat.succ_pos i)
          have tail := ih (i := i)
            (fun other member => answered other (List.mem_cons_of_mem offer member))
            (by simpa using here)
            (fun j less => by simpa using before (j + 1) (Nat.succ_lt_succ less))
          simp [passed, tail]

/-- Without a verdict anywhere, the fold looks at every offer and holds nothing. -/
theorem select_of_no_verdict (pathExists : String → Bool) {offers : List Offer}
    (answered : ∀ offer ∈ offers, offer.Answered)
    (nowhere : ∀ i, verdictAt? pathExists offers i = none) :
    select pathExists none offers =
      ⟨eventsTo pathExists offers offers.length, .ok (.keep none)⟩ := by
  induction offers with
  | nil =>
      rfl
  | cons offer rest ih =>
      have passed : offer.verdict? pathExists rest.head? = none := by
        simpa using nowhere 0
      have tail := ih (fun offer member => answered offer (List.mem_cons_of_mem _ member))
        (fun i => by simpa using nowhere (i + 1))
      rw [select_none_cons pathExists (answered offer List.mem_cons_self), List.length_cons,
        eventsTo_cons]
      simp [passed, tail]

/-! ## Where a chain ends -/

/--
The alternative at a position has a value that is kept: nothing follows it, or
a piece that is not empty does, or the value exists as a path.
-/
def Taken (pathExists : String → Bool) (offers : List Offer) (i : Nat) (value : String) :
    Prop :=
  (∃ offer, offers[i]? = some offer ∧ offer.value? = some value) ∧
    (i + 1 = offers.length ∨
      (∃ next, offers[i + 1]? = some next ∧ next.isBlank = false) ∨
      pathExists value = true)

/-- The chunk at a position holds no group. -/
def Malformed (offers : List Offer) (i : Nat) (chunk : String) : Prop :=
  offers[i]? = some (.malformed chunk)

/-- The chain ends at a position that is reached with nothing held. -/
def Ends (pathExists : String → Bool) (offers : List Offer) (i : Nat) : Prop :=
  (∃ value, Taken pathExists offers i value) ∨ ∃ chunk, Malformed offers i chunk

/-- The flow with which a chain of `count` pieces ends at a position with a value. -/
def flowAt (count i : Nat) (value : String) : Flow :=
  if i + 1 = count then .keep (some value) else .stop (some value)

@[simp]
theorem flowAt_value (count i : Nat) (value : String) :
    (flowAt count i value).value = some value := by
  unfold flowAt
  split <;> rfl

theorem verdictAt?_of_malformed (pathExists : String → Bool) {offers : List Offer} {i : Nat}
    {chunk : String} (malformed : Malformed offers i chunk) :
    verdictAt? pathExists offers i = some (.stop none) := by
  have found : offers[i]? = some (.malformed chunk) := malformed
  simp [verdictAt?, found, Offer.verdict?]

theorem verdictAt?_of_taken {pathExists : String → Bool} {offers : List Offer} {i : Nat}
    {value : String} (taken : Taken pathExists offers i value) :
    verdictAt? pathExists offers i = some (flowAt offers.length i value) := by
  rcases taken with ⟨⟨offer, found, valued⟩, kept⟩
  cases offer with
  | blank => simp [Offer.value?] at valued
  | malformed chunk => simp [Offer.value?] at valued
  | alternative answer =>
      simp only [verdictAt?, found, Option.bind_some, Offer.verdict?, valued]
      cases behind : offers[i + 1]? with
      | none =>
          have present : i < offers.length := (List.getElem?_eq_some_iff.mp found).1
          have absent : offers.length ≤ i + 1 := List.getElem?_eq_none_iff.mp behind
          have last : i + 1 = offers.length := by omega
          simp [flowAt, last]
      | some next =>
          have more : i + 1 < offers.length := (List.getElem?_eq_some_iff.mp behind).1
          have inside : flowAt offers.length i value = .stop (some value) := by
            simp [flowAt, Nat.ne_of_lt more]
          rw [inside]
          cases next with
          | blank =>
              have confirmed : pathExists value = true := by
                rcases kept with last | ⟨next, same, filled⟩ | confirmed
                · omega
                · rw [behind, Option.some.injEq] at same
                  subst same
                  cases filled
                · exact confirmed
              simp [confirmed]
          | alternative answer => rfl
          | malformed chunk => rfl

/-- An offer that does not end the chain is passed over. -/
theorem verdictAt?_eq_none {pathExists : String → Bool} {offers : List Offer} {i : Nat}
    (passed : ¬ Ends pathExists offers i) : verdictAt? pathExists offers i = none := by
  cases found : offers[i]? with
  | none => simp [verdictAt?, found]
  | some offer =>
      simp only [verdictAt?, found, Option.bind_some]
      cases offer with
      | blank => rfl
      | malformed chunk => exact (passed (Or.inr ⟨chunk, found⟩)).elim
      | alternative answer =>
          cases valued : (Offer.alternative answer).value? with
          | none => simp [Offer.verdict?, valued]
          | some value =>
              have notKept : ¬ (i + 1 = offers.length ∨
                  (∃ next, offers[i + 1]? = some next ∧ next.isBlank = false) ∨
                  pathExists value = true) :=
                fun kept => passed (Or.inl ⟨value, ⟨_, found, valued⟩, kept⟩)
              have present : i < offers.length := (List.getElem?_eq_some_iff.mp found).1
              have notLast : i + 1 ≠ offers.length := fun last => notKept (Or.inl last)
              have more : i + 1 < offers.length := by omega
              have behind : offers[i + 1]? = some offers[i + 1] := List.getElem?_eq_getElem more
              have unconfirmed : ¬ pathExists value = true :=
                fun confirmed => notKept (Or.inr (Or.inr confirmed))
              simp only [Offer.verdict?, valued, behind]
              cases next : offers[i + 1] with
              | blank => simp [unconfirmed]
              | alternative answer =>
                  exact (notKept (Or.inr (Or.inl ⟨_, behind, by rw [next]; rfl⟩))).elim
              | malformed chunk =>
                  exact (notKept (Or.inr (Or.inl ⟨_, behind, by rw [next]; rfl⟩))).elim

theorem verdictAt?_isSome_of_ends {pathExists : String → Bool} {offers : List Offer} {i : Nat}
    (ends : Ends pathExists offers i) : (verdictAt? pathExists offers i).isSome := by
  rcases ends with ⟨value, taken⟩ | ⟨chunk, malformed⟩
  · simp [verdictAt?_of_taken taken]
  · simp [verdictAt?_of_malformed pathExists malformed]

/-- Of the positions at which the chain ends there is a least one. -/
theorem exists_least_end {pathExists : String → Bool} {offers : List Offer} {j : Nat}
    (ends : Ends pathExists offers j) :
    ∃ i ≤ j, Ends pathExists offers i ∧ ∀ k < i, ¬ Ends pathExists offers k := by
  classical
  exact ⟨Nat.find ⟨j, ends⟩, Nat.find_min' _ ends, Nat.find_spec _,
    fun k less => Nat.find_min _ less⟩

/-! ## The fold ends at the least such position -/

section Least

variable (pathExists : String → Bool) {offers : List Offer} {i : Nat}

/-- An alternative that is taken ends the fold, whatever is behind it. -/
theorem select_of_taken (answered : ∀ offer ∈ offers.take (i + 1), offer.Answered)
    {value : String} (taken : Taken pathExists offers i value)
    (least : ∀ j < i, ¬ Ends pathExists offers j) :
    select pathExists none offers =
      ⟨eventsTo pathExists offers (i + 1), .ok (flowAt offers.length i value)⟩ :=
  select_of_verdict pathExists answered (verdictAt?_of_taken taken)
    (fun j less => verdictAt?_eq_none (least j less))

/-- A chunk without a group ends the fold, whatever is behind it. -/
theorem select_of_malformed (answered : ∀ offer ∈ offers.take (i + 1), offer.Answered)
    {chunk : String} (malformed : Malformed offers i chunk)
    (least : ∀ j < i, ¬ Ends pathExists offers j) :
    select pathExists none offers =
      ⟨eventsTo pathExists offers (i + 1), .ok (.stop none)⟩ :=
  select_of_verdict pathExists answered (verdictAt?_of_malformed pathExists malformed)
    (fun j less => verdictAt?_eq_none (least j less))

theorem select_of_no_end (answered : ∀ offer ∈ offers, offer.Answered)
    (nowhere : ∀ i, ¬ Ends pathExists offers i) :
    select pathExists none offers =
      ⟨eventsTo pathExists offers offers.length, .ok (.keep none)⟩ :=
  select_of_no_verdict pathExists answered (fun i => verdictAt?_eq_none (nowhere i))

end Least

end PathExpr.Expr

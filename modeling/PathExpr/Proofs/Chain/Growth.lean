import PathExpr.Proofs.Chain.Project

/-!
# Chains while paths come into being

Whether a path exists decides only one thing in a chain: whether a value that an
empty piece follows is kept.  Where more paths exist, more values are kept, and
none is dropped that was kept before.  So a chain ends at the same alternative or
at an earlier one, and what it looks up until then it looked up before as well,
in the same order.

A chunk without a group also ends a project chain, and without a value.  No path
has a part in that: such a chunk stands behind the alternative that was taken
before, and is not reached now either.

What the pieces of a chain offer does not depend on the paths that exist, as
long as the lookups do not.  Both kinds of chains are selections among such
offers, also where a text without question marks is its only alternative.
-/

namespace PathExpr

/-- Whether the event looks something up: it is neither a probe nor a remark. -/
def Event.isLookup : Event → Bool
  | .probe _ => false
  | .note _ => false
  | _ => true

/-- What a computation looks up, in order. -/
def Traced.lookups {α : Type} (computation : Traced α) : List Event :=
  computation.events.filter Event.isLookup

namespace Expr

open PathExpr.Text

/-! ## The alternative that a chain takes -/

/-- The fold goes past a position: its offer is answered and does not end the chain. -/
def Passed (pathExists : String → Bool) (offers : List Offer) (j : Nat) : Prop :=
  (∀ offer, offers[j]? = some offer → offer.Answered) ∧ ¬ Ends pathExists offers j

/-- The fold reaches a position and takes the value of the alternative there. -/
def Selects (pathExists : String → Bool) (offers : List Offer) (i : Nat) (value : String) :
    Prop :=
  Taken pathExists offers i value ∧ ∀ j < i, Passed pathExists offers j

theorem Offer.answered_of_value? {offer : Offer} {value : String}
    (valued : offer.value? = some value) : offer.Answered := by
  cases offer with
  | blank => trivial
  | malformed chunk => trivial
  | alternative answer =>
      cases ended : answer.outcome with
      | error fault => simp [Offer.value?, ended] at valued
      | ok found => exact ⟨found, ended⟩

section Taken

variable {pathExists : String → Bool} {offer : Offer} {offers rest : List Offer} {i : Nat}
  {value : String}

@[simp]
theorem taken_cons_succ :
    Taken pathExists (offer :: rest) (i + 1) value ↔ Taken pathExists rest i value := by
  simp [Taken]

@[simp]
theorem ends_cons_succ : Ends pathExists (offer :: rest) (i + 1) ↔ Ends pathExists rest i := by
  simp [Ends, Malformed]

@[simp]
theorem passed_cons_succ :
    Passed pathExists (offer :: rest) (i + 1) ↔ Passed pathExists rest i := by
  simp [Passed]

/-- A verdict with a value is that of an alternative whose value is taken. -/
theorem taken_of_verdictAt? {flow : Flow} (verdict : verdictAt? pathExists offers i = some flow)
    (valued : flow.value = some value) : Taken pathExists offers i value := by
  have ends : Ends pathExists offers i := by
    by_contra passed
    cases (verdictAt?_eq_none passed).symm.trans verdict
  rcases ends with ⟨other, taken⟩ | ⟨chunk, malformed⟩
  · rw [verdictAt?_of_taken taken] at verdict
    obtain rfl := Option.some.inj verdict
    rw [flowAt_value] at valued
    obtain rfl := Option.some.inj valued
    exact taken
  · rw [verdictAt?_of_malformed pathExists malformed] at verdict
    obtain rfl := Option.some.inj verdict
    cases valued

theorem Selects.select_eq (selects : Selects pathExists offers i value) :
    select pathExists none offers =
      ⟨eventsTo pathExists offers (i + 1), .ok (flowAt offers.length i value)⟩ := by
  rcases selects with ⟨taken, passed⟩
  refine select_of_verdict pathExists ?_ (verdictAt?_of_taken taken)
    (fun j less => verdictAt?_eq_none (passed j less).2)
  intro offer member
  obtain ⟨j, within, same⟩ := List.mem_take_iff_getElem.mp member
  have found : offers[j]? = some offer := List.getElem?_eq_some_iff.mpr ⟨by omega, same⟩
  rcases Nat.lt_or_eq_of_le (show j ≤ i by omega) with less | rfl
  · exact (passed j less).1 offer found
  · rcases taken.1 with ⟨own, here, valued⟩
    obtain rfl := Option.some.inj (here.symm.trans found)
    exact Offer.answered_of_value? valued

/-- A selection with a value has taken it at a position. -/
theorem exists_selects {flow : Flow}
    (ended : (select pathExists none offers).outcome = .ok flow)
    (valued : flow.value = some value) : ∃ i, Selects pathExists offers i value := by
  induction offers with
  | nil =>
      cases ended
      cases valued
  | cons offer rest ih =>
      by_cases answered : offer.Answered
      · rw [select_none_cons pathExists answered] at ended
        cases verdict : offer.verdict? pathExists rest.head? with
        | some own =>
            rw [verdict] at ended
            obtain rfl := Except.ok.inj ended
            refine ⟨0, taken_of_verdictAt? ?_ valued, fun j less => absurd less (Nat.not_lt_zero j)⟩
            rw [verdictAt?_cons_zero, verdict]
        | none =>
            rw [verdict] at ended
            obtain ⟨i, taken, passed⟩ := ih ended
            refine ⟨i + 1, taken_cons_succ.mpr taken, ?_⟩
            intro j less
            cases j with
            | zero =>
                refine ⟨fun other found => ?_, fun ends => ?_⟩
                · obtain rfl := Option.some.inj found
                  exact answered
                · have decided := verdictAt?_isSome_of_ends ends
                  rw [verdictAt?_cons_zero, verdict] at decided
                  cases decided
            | succ j => exact passed_cons_succ.mpr (passed j (Nat.lt_of_succ_lt_succ less))
      · cases offer with
        | blank => exact absurd trivial answered
        | malformed chunk => exact absurd trivial answered
        | alternative answer =>
            cases failed : answer.outcome with
            | ok value => exact absurd ⟨value, failed⟩ answered
            | error fault =>
                rw [select, Traced.bind_of_error failed] at ended
                cases ended

/-- The value of a selection is that of the alternative that it takes. -/
theorem outcome_select_eq_some_iff :
    (Flow.value <$> select pathExists none offers).outcome = .ok (some value) ↔
      ∃ i, Selects pathExists offers i value := by
  constructor
  · intro ended
    rw [← bind_pure_comp, Traced.outcome_bind] at ended
    cases run : (select pathExists none offers).outcome with
    | error fault =>
        rw [run] at ended
        cases ended
    | ok flow =>
        rw [run] at ended
        exact exists_selects run (Except.ok.inj ended)
  · rintro ⟨i, selects⟩
    rw [selects.select_eq, Traced.map_ok, flowAt_value]

end Taken

/-! ## More paths -/

section Growth

variable {before after : String → Bool} (grows : ∀ path, before path = true → after path = true)
  {offers : List Offer} {i : Nat} {value : String}

include grows

/-- A value that was kept is kept. -/
theorem Taken.grow (taken : Taken before offers i value) : Taken after offers i value :=
  ⟨taken.1, taken.2.imp_right (Or.imp_right (grows value))⟩

/-- The alternative that is taken is the one that was taken, or stands before it. -/
theorem Selects.grow (selects : Selects before offers i value) :
    ∃ j ≤ i, ∃ other, Selects after offers j other := by
  rcases selects with ⟨taken, passed⟩
  obtain ⟨j, notBehind, ends, least⟩ := exists_least_end (Or.inl ⟨value, taken.grow grows⟩)
  rcases ends with ⟨other, takenNow⟩ | ⟨chunk, malformed⟩
  · refine ⟨j, notBehind, other, takenNow, fun k less => ⟨?_, least k less⟩⟩
    exact (passed k (Nat.lt_of_lt_of_le less notBehind)).1
  · -- No path makes a chunk malformed, so it would have ended the chain before as well.
    rcases Nat.lt_or_eq_of_le notBehind with less | rfl
    · exact absurd (Or.inr ⟨chunk, malformed⟩) (passed j less).2
    · rcases taken.1 with ⟨offer, found, valued⟩
      obtain rfl := Option.some.inj (found.symm.trans malformed)
      cases valued

/-- What is passed over now was passed over before. -/
theorem Offer.verdict?_grow {offer : Offer} {next : Option Offer}
    (passed : offer.verdict? after next = none) : offer.verdict? before next = none := by
  cases offer with
  | blank => rfl
  | malformed chunk => cases passed
  | alternative answer =>
      simp only [Offer.verdict?] at passed ⊢
      cases valued : (Offer.alternative answer).value? with
      | none => rfl
      | some value =>
          rw [valued] at passed
          cases next with
          | none => cases passed
          | some next =>
              cases next with
              | alternative other => cases passed
              | malformed chunk => cases passed
              | blank =>
                  simp only [ite_eq_right_iff, reduceCtorEq, imp_false] at passed ⊢
                  exact fun confirmed => passed (grows value confirmed)

omit grows in
/-- Asking whether a held value exists looks nothing up. -/
theorem filter_isLookup_confirmation (pathExists : String → Bool) (held : String) :
    (confirmation pathExists held).filter Event.isLookup = [] := by
  unfold confirmation
  split <;> rfl

omit grows in
/-- What an offer looks up does not depend on the paths that exist. -/
theorem Offer.filter_isLookup_events (offer : Offer) (next : Option Offer) :
    (offer.events before next).filter Event.isLookup =
      (offer.events after next).filter Event.isLookup := by
  cases offer with
  | blank => rfl
  | malformed chunk => rfl
  | alternative answer =>
      simp only [Offer.events, List.filter_append]
      congr 1
      split
      · rw [filter_isLookup_confirmation, filter_isLookup_confirmation]
      · rfl

/-- What is looked up now was looked up before, as the first lookups and in this order. -/
theorem lookups_select_isPrefix (offers : List Offer) :
    (select after none offers).lookups <+: (select before none offers).lookups := by
  induction offers with
  | nil => exact List.prefix_refl _
  | cons offer rest ih =>
      have same : (offer.events before rest.head?).filter Event.isLookup =
          (offer.events after rest.head?).filter Event.isLookup :=
        offer.filter_isLookup_events rest.head?
      by_cases answered : offer.Answered
      · rw [select_none_cons after answered, select_none_cons before answered]
        cases now : offer.verdict? after rest.head? with
        | none =>
            simp only [Offer.verdict?_grow grows now, Traced.lookups, List.filter_append, same]
            exact List.prefix_append_right_inj _ |>.mpr ih
        | some flow =>
            cases offer.verdict? before rest.head? with
            | some other =>
                simp only [Traced.lookups, same]
                exact List.prefix_refl _
            | none =>
                simp only [Traced.lookups, List.filter_append, same]
                exact List.prefix_append _ _
      · cases offer with
        | blank => exact absurd trivial answered
        | malformed chunk => exact absurd trivial answered
        | alternative answer =>
            cases failed : answer.outcome with
            | ok value => exact absurd ⟨value, failed⟩ answered
            | error fault =>
                have same : select after none (.alternative answer :: rest) =
                    select before none (.alternative answer :: rest) := by
                  rw [select, select, Traced.bind_of_error failed, Traced.bind_of_error failed]
                exact same ▸ List.prefix_refl _

end Growth

/-! ## What a chain offers -/

/-- What the pieces of a text offer; without a question mark it is one alternative. -/
def chainOffers (lookup : Lookup) (s : String) : List Offer :=
  match questionMarkOf? s with
  | none => [.alternative (lookup s)]
  | some separator => plainOffers lookup separator s

theorem select_alternative (pathExists : String → Bool) (answer : Traced (Option String)) :
    Flow.value <$> select pathExists none [.alternative answer] = answer := by
  simp [select, Flow.value]

theorem chainValue_eq_select (pathExists : String → Bool) (lookup : Lookup) (s : String) :
    chainValue pathExists lookup s =
      Flow.value <$> select pathExists none (chainOffers lookup s) := by
  unfold chainValue chainOffers
  cases marked : questionMarkOf? s with
  | none => exact (select_alternative pathExists _).symm
  | some separator =>
      simp only [foldText_eq_select pathExists lookup (questionMarkOf?_ne_empty marked),
        bind_pure_comp]

namespace ProjectChain

variable (chain : ProjectChain)

/-- What a text of a project offers as its only alternative. -/
def aloneOffer (first s : String) : Offer :=
  .alternative <|
    match chain.followOf? s with
    | some follow => follow s
    | none =>
      match ProjectGroup.parse? first with
      | none => return none
      | some group => chain.lookup s group

/-- What the pieces of a text of a project offer; without a question mark it is one alternative. -/
def chainOffers (first s : String) : List Offer :=
  match questionMarkOf? s with
  | none => [chain.aloneOffer first s]
  | some separator => chain.offers first (trimmedPieces separator s)

theorem value_eq_select (first s : String) :
    chain.value first s =
      Flow.value <$> select chain.pathExists none (chain.chainOffers first s) := by
  unfold value chainOffers
  cases marked : questionMarkOf? s with
  | none => exact (select_alternative chain.pathExists _).symm
  | some separator =>
      simp only [chain.foldText_eq_select (questionMarkOf?_ne_empty marked), bind_pure_comp]

end ProjectChain

/-! ## Chains of both kinds -/

theorem lookups_map {α β : Type} (f : α → β) (computation : Traced α) :
    (f <$> computation).lookups = computation.lookups := by
  rcases computation with ⟨events, fault | value⟩
  · rw [← bind_pure_comp, Traced.bind_of_error rfl]
    rfl
  · rw [Traced.map_ok]
    rfl

/-- A selection takes one alternative at most. -/
theorem Selects.unique {pathExists : String → Bool} {offers : List Offer} {i j : Nat}
    {value other : String} (selects : Selects pathExists offers i value)
    (also : Selects pathExists offers j other) : i = j := by
  rcases Nat.lt_trichotomy i j with less | same | less
  · exact absurd (Or.inl ⟨value, selects.1⟩) (also.2 i less).2
  · exact same
  · exact absurd (Or.inl ⟨other, also.1⟩) (selects.2 j less).2

/-- How a chain with given offers fares, once the paths `after` exist and not only `before`. -/
structure Advances (before after : String → Bool) (offers : List Offer)
    (value : (String → Bool) → Traced (Option String)) : Prop where
  /-- The chain has the value of the alternative that it selects. -/
  selected : ∀ pathExists found, (value pathExists).outcome = .ok (some found) ↔
    ∃ i, Selects pathExists offers i found
  one : ∀ pathExists i j found other, Selects pathExists offers i found →
    Selects pathExists offers j other → i = j
  noLater : ∀ i found, Selects before offers i found →
    ∃ j ≤ i, ∃ other, Selects after offers j other
  present : ∀ found, (value before).outcome = .ok (some found) →
    ∃ other, (value after).outcome = .ok (some other)
  lookups : (value after).lookups <+: (value before).lookups

theorem advances_of_select {before after : String → Bool}
    (grows : ∀ path, before path = true → after path = true) {offers : List Offer}
    {value : (String → Bool) → Traced (Option String)}
    (same : ∀ pathExists, value pathExists = Flow.value <$> select pathExists none offers) :
    Advances before after offers value := by
  have selected : ∀ pathExists found, (value pathExists).outcome = .ok (some found) ↔
      ∃ i, Selects pathExists offers i found := by
    intro pathExists found
    rw [same]
    exact outcome_select_eq_some_iff
  have noLater : ∀ i found, Selects before offers i found →
      ∃ j ≤ i, ∃ other, Selects after offers j other :=
    fun i found selects => selects.grow grows
  refine ⟨selected, fun _ _ _ _ _ => Selects.unique, noLater, ?_, ?_⟩
  · intro found ended
    obtain ⟨i, selects⟩ := (selected before found).mp ended
    obtain ⟨j, -, other, now⟩ := noLater i found selects
    exact ⟨other, (selected after other).mpr ⟨j, now⟩⟩
  · rw [same, same, lookups_map, lookups_map]
    exact lookups_select_isPrefix grows offers

/--
Where more paths exist, a chain of either kind takes the alternative that it took
before or an earlier one, has a value if it had one, and makes the lookups that it
made before up to some place.  The lookups and the following of references are any
computations that do not depend on the paths; the ones of a project chain, and with
them what its pieces offer, are the same whatever exists.
-/
theorem chains_advance {before after : String → Bool}
    (grows : ∀ path, before path = true → after path = true) :
    (∀ lookup s, Advances before after (chainOffers lookup s)
      fun pathExists => chainValue pathExists lookup s) ∧
    ∀ lookup follow first s,
      Advances before after (ProjectChain.chainOffers ⟨before, lookup, follow⟩ first s)
        fun pathExists => ProjectChain.value ⟨pathExists, lookup, follow⟩ first s := by
  constructor
  · intro lookup s
    exact advances_of_select grows fun pathExists => chainValue_eq_select pathExists lookup s
  · intro lookup follow first s
    exact advances_of_select grows fun pathExists =>
      ProjectChain.value_eq_select ⟨pathExists, lookup, follow⟩ first s

/-- Once the first value exists, a chunk without a group is as little reached as it was before. -/
theorem chains_advance_past_group :
    let lookup : ProjectLookup := fun ident group =>
      ⟨[.project ident group],
        .ok (if ident = "cfg" then some "/c/cfg"
          else if group.application = "z" then some "/z/data" else none)⟩
    let value := fun pathExists => ProjectChain.value ⟨pathExists, lookup, none⟩
      "$proj(a.b.c)" "cfg ?? (x.y.z): data ? (: log"
    let made : String → Bool := fun path => path == "/c/cfg"
    (∀ path, (fun _ => false) path = true → made path = true) ∧
      (value fun _ => false).outcome = .ok (some "/z/data") ∧
      (∃ other, (value made).outcome = .ok (some other)) ∧
      (value made).lookups <+: (value fun _ => false).lookups := by
  intro lookup value made
  have grows : ∀ path, (fun _ => false) path = true → made path = true :=
    fun path none => by cases none
  let chain : ProjectChain := ⟨fun _ => false, lookup, none⟩
  have offers : chain.offers "$proj(a.b.c)" ["cfg", "", "(x.y.z): data", "(: log"] =
      [.alternative ⟨[.project "cfg" ⟨"a", "b", "c"⟩], .ok (some "/c/cfg")⟩, .blank,
        .alternative ⟨[.project "data" ⟨"x", "y", "z"⟩], .ok (some "/z/data")⟩,
        .malformed "(: log"] := by
    simp only [ProjectChain.offers_cons, ProjectChain.offers_nil,
      show chain.switches "cfg" = false from rfl, show chain.switches "" = false from rfl,
      show chain.switches "(x.y.z): data" = true from rfl,
      show chain.switches "(: log" = true from rfl]
    rfl
  have missed : (chain.value "$proj(a.b.c)" "cfg ?? (x.y.z): data ? (: log").outcome =
      .ok (some "/z/data") := by
    rw [ProjectChain.value_eq_select, ProjectChain.chainOffers,
      show questionMarkOf? "cfg ?? (x.y.z): data ? (: log" = some "?" by decide]
    simp only [show trimmedPieces "?" "cfg ?? (x.y.z): data ? (: log" =
      ["cfg", "", "(x.y.z): data", "(: log"] by decide, offers]
    rfl
  have advances := (chains_advance grows).2 lookup none "$proj(a.b.c)"
    "cfg ?? (x.y.z): data ? (: log"
  exact ⟨grows, missed, advances.present _ missed, advances.lookups⟩

end Expr

end PathExpr

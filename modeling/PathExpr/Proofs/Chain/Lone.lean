import PathExpr.Proofs.Chain.Project
import PathExpr.Proofs.Text.Trim

/-!
# Lone alternatives of a project

Behind the tag of a project may stand a chain, or one alternative without any
question mark.  A chain reads every alternative for a group of its own and looks
up what stands behind the last colon.  A lone alternative is looked up as it is
written, in the group of the tag.

The two ways give the same value for every provider exactly when the alternative
is followed as a reference, or when it changes nothing: the group of the chain
is that of the tag, and no colon stands before the identifier.  An alternative
that names its own group is therefore not found when it stands alone, and is
found as soon as a question mark is written behind it.
-/

namespace PathExpr.Expr

open PathExpr.Text

/-- Of a trimmed text all stands behind its last colon exactly when it has none. -/
theorem afterLastColon_eq_self_iff {s : String} (trimmed : trim s = s) :
    afterLastColon s = s ↔ ∀ c ∈ s.toList, isColon c = false := by
  have unfolded : afterLastColon s =
      trim (String.ofList (s.toList.reverse.takeWhile fun c => !isColon c).reverse) := rfl
  constructor
  · intro same
    have lengths := congrArg String.length same
    rw [unfolded] at lengths
    have kept := length_trim_le
      (String.ofList (s.toList.reverse.takeWhile fun c => !isColon c).reverse)
    rw [lengths, String.length_ofList, List.length_reverse, ← String.length_toList,
      ← List.length_reverse] at kept
    have whole := (List.takeWhile_prefix fun c => !isColon c).eq_of_length_le kept
    intro c member
    simpa using List.takeWhile_eq_self_iff.mp whole c (List.mem_reverse.mpr member)
  · intro plain
    have whole : (s.toList.reverse.takeWhile fun c => !isColon c) = s.toList.reverse := by
      simpa using plain
    rw [unfolded, whole, List.reverse_reverse, String.ofList_toList, trimmed]

namespace ProjectChain

variable (chain : ProjectChain)

/-! ## One piece -/

/-- The chunk that says the group of an alternative which is not followed as a reference. -/
def chunkOf (first segment : String) : String :=
  if contains "(" segment then segment else first

/-- The value of an alternative as the only piece of a chain. -/
def onlyPiece (first segment : String) : Traced (Option String) :=
  match chain.followOf? segment with
  | some follow => follow segment
  | none =>
    match ProjectGroup.parse? (chunkOf first segment) with
    | none => do
      Traced.remark (.malformedGroup (chunkOf first segment))
      return none
    | some group => chain.lookup (afterLastColon segment) group

theorem foldText_of_single {separator s segment : String} (nonempty : separator ≠ "")
    (single : trimmedPieces separator s = [segment]) (filled : segment ≠ "") (first : String) :
    Flow.value <$> chain.foldText first separator s = chain.onlyPiece first segment := by
  rw [chain.foldText_eq_select nonempty, single, offers_cons, offers_nil]
  cases following : chain.followOf? segment with
  | some follow =>
      simp [offer, filled, following, select, onlyPiece, Flow.value]
  | none =>
      have switching : (if chain.switches segment then segment else first) =
          chunkOf first segment := by
        simp [switches, following, chunkOf]
      rw [switching]
      cases parsed : ProjectGroup.parse? (chunkOf first segment) with
      | none => simp [offer, filled, following, parsed, select, onlyPiece, Flow.value]
      | some group => simp [offer, filled, following, parsed, select, onlyPiece, Flow.value]

/-! ## When the two ways meet -/

/-- The group is that of the tag, and no colon stands before the identifier. -/
def ChangesNothing (first segment : String) : Prop :=
  ProjectGroup.parse? (chunkOf first segment) = ProjectGroup.parse? first ∧
    (ProjectGroup.parse? first = none ∨ ∀ c ∈ segment.toList, isColon c = false)

theorem followOf?_isSome_iff (segment : String) :
    (chain.followOf? segment).isSome ↔ startsReference segment = true ∧ chain.follow.isSome := by
  unfold followOf?
  split
  · next reference => simp [reference]
  · next reference => simp [reference]

theorem value_of_unmarked {segment : String} (unmarked : questionMarkOf? segment = none)
    (first : String) :
    chain.value first segment =
      match chain.followOf? segment with
      | some follow => follow segment
      | none =>
        match ProjectGroup.parse? first with
        | none => return none
        | some group => chain.lookup segment group := by
  unfold value
  generalize questionMarkOf? segment = mark at unmarked ⊢
  subst unmarked
  rfl

/-- An alternative that changes nothing has one value and asks for it in one way. -/
theorem value_eq_onlyPiece {first segment : String} (trimmed : trim segment = segment)
    (unmarked : questionMarkOf? segment = none)
    (meets : (startsReference segment = true ∧ chain.follow.isSome) ∨
      ChangesNothing first segment) :
    (chain.value first segment).outcome = (chain.onlyPiece first segment).outcome ∧
      (chain.value first segment).calls = (chain.onlyPiece first segment).calls := by
  rw [chain.value_of_unmarked unmarked, onlyPiece]
  cases following : chain.followOf? segment with
  | some follow => exact ⟨rfl, rfl⟩
  | none =>
      have unfollowed : ¬ (startsReference segment = true ∧ chain.follow.isSome) := by
        rw [← chain.followOf?_isSome_iff, following]
        simp
      obtain ⟨group, ident⟩ := meets.resolve_left unfollowed
      simp only [group]
      cases parsed : ProjectGroup.parse? first with
      | none => exact ⟨rfl, rfl⟩
      | some group =>
          have plain := ident.resolve_left (by simp [parsed])
          rw [(afterLastColon_eq_self_iff trimmed).mpr plain]
          exact ⟨rfl, rfl⟩

/-- A lookup that knows one identifier in one group. -/
def knowing (ident : String) (group : ProjectGroup) : ProjectLookup :=
  fun other otherGroup => return if other = ident ∧ otherGroup = group then some "" else none

theorem outcome_knowing (ident other : String) (group otherGroup : ProjectGroup) :
    (knowing ident group other otherGroup).outcome =
      .ok (if other = ident ∧ otherGroup = group then some "" else none) := rfl

/-- Where the two ways differ, a provider that knows what one of them asks for tells them apart. -/
theorem changesNothing_of_same_outcomes {first segment : String} {follow : Option Lookup}
    (trimmed : trim segment = segment) (unmarked : questionMarkOf? segment = none)
    (unfollowed : ¬ (startsReference segment = true ∧ follow.isSome))
    (same : ∀ lookup : ProjectLookup,
      (value ⟨fun _ => false, lookup, follow⟩ first segment).outcome =
        (onlyPiece ⟨fun _ => false, lookup, follow⟩ first segment).outcome) :
    ChangesNothing first segment := by
  have following : ∀ lookup : ProjectLookup,
      followOf? ⟨fun _ => false, lookup, follow⟩ segment = none := by
    intro lookup
    rw [← Option.not_isSome_iff_eq_none, followOf?_isSome_iff]
    exact unfollowed
  have told := fun ident group => same (knowing ident group)
  simp only [value_of_unmarked _ unmarked, onlyPiece, following] at told
  rw [ChangesNothing, ← afterLastColon_eq_self_iff trimmed]
  cases alone : ProjectGroup.parse? first with
  | none =>
      cases chained : ProjectGroup.parse? (chunkOf first segment) with
      | none => exact ⟨rfl, Or.inl rfl⟩
      | some group =>
          have differ := told (afterLastColon segment) group
          simp [alone, chained, outcome_knowing] at differ
  | some group =>
      have differ := told segment group
      simp only [alone, outcome_knowing, and_self, if_true] at differ
      cases chained : ProjectGroup.parse? (chunkOf first segment) with
      | none =>
          rw [chained] at differ
          cases differ
      | some other =>
          simp only [chained, outcome_knowing, Except.ok.injEq] at differ
          by_cases found : afterLastColon segment = segment ∧ other = group
          · exact ⟨by rw [found.2], Or.inr found.1⟩
          · simp [found] at differ

/--
A lone alternative and a chain of that one alternative have the same value, for
every provider, exactly when the alternative is followed as a reference or
changes nothing, and then they ask for the same.  The chain of one alternative
is what a question mark behind the alternative makes of it.
-/
theorem lone_value_eq_chain_iff (first : String) {segment : String} (follow : Option Lookup)
    (trimmed : trim segment = segment) (filled : segment ≠ "")
    (unmarked : questionMarkOf? segment = none) {mark : Char}
    (isMark : isQuestionMark mark = true) :
    let alone := fun pathExists lookup =>
      value ⟨pathExists, lookup, follow⟩ first segment
    let chained := fun pathExists lookup =>
      Flow.value <$> foldText ⟨pathExists, lookup, follow⟩ first (String.singleton mark) segment
    let meets := (startsReference segment = true ∧ follow.isSome) ∨ ChangesNothing first segment
    ((∀ pathExists lookup,
      (alone pathExists lookup).outcome = (chained pathExists lookup).outcome) ↔ meets) ∧
    (meets → ∀ pathExists lookup,
      (alone pathExists lookup).calls = (chained pathExists lookup).calls) ∧
    ∀ pathExists lookup,
      value ⟨pathExists, lookup, follow⟩ first (segment ++ String.singleton mark) =
        chained pathExists lookup := by
  intro alone chained meets
  have nonempty : String.singleton mark ≠ "" := by
    simp
  have absent : mark ∉ segment.toList := by
    intro member
    simp [questionMarkOf?_eq_none_iff.mp unmarked mark member] at isMark
  have single : ∀ pathExists lookup, chained pathExists lookup =
      onlyPiece ⟨pathExists, lookup, follow⟩ first segment := by
    intro pathExists lookup
    have pieces := trimmedPieces_of_not_mem absent trimmed filled
    exact foldText_of_single _ nonempty pieces filled first
  have agrees : meets → ∀ pathExists lookup,
      (alone pathExists lookup).outcome = (chained pathExists lookup).outcome ∧
        (alone pathExists lookup).calls = (chained pathExists lookup).calls := by
    intro met pathExists lookup
    rw [single]
    exact value_eq_onlyPiece _ trimmed unmarked met
  refine ⟨⟨?_, ?_⟩, ?_, ?_⟩
  · intro same
    by_cases followed : startsReference segment = true ∧ follow.isSome
    · exact Or.inl followed
    · refine Or.inr (changesNothing_of_same_outcomes trimmed unmarked followed ?_)
      intro lookup
      rw [← single]
      exact same _ lookup
  · intro met pathExists lookup
    exact (agrees met pathExists lookup).1
  · intro met pathExists lookup
    exact (agrees met pathExists lookup).2
  · intro pathExists lookup
    rw [value, questionMarkOf?_append_mark unmarked isMark, single]
    have pieces := trimmedPieces_append_mark absent trimmed
    have folded := foldText_of_single ⟨pathExists, lookup, follow⟩ nonempty pieces filled first
    simpa using folded

/-- An alternative may name the group of its tag once more. -/
theorem lone_value_eq_chain_of_same_group :
    trim "data (a. b .c)" = "data (a. b .c)" ∧ "data (a. b .c)" ≠ "" ∧
      questionMarkOf? "data (a. b .c)" = none ∧ isQuestionMark '？' = true ∧
      ∀ pathExists lookup,
        (value ⟨pathExists, lookup, none⟩ "$proj(a.b.c)" "data (a. b .c)").outcome =
          (Flow.value <$> foldText ⟨pathExists, lookup, none⟩ "$proj(a.b.c)" "？"
            "data (a. b .c)").outcome := by
  have trimmed : trim "data (a. b .c)" = "data (a. b .c)" := by
    decide
  have filled : "data (a. b .c)" ≠ "" := by
    decide
  have unmarked : questionMarkOf? "data (a. b .c)" = none := by
    decide
  have isMark : isQuestionMark '？' = true := by
    decide
  have changesNothing : ChangesNothing "$proj(a.b.c)" "data (a. b .c)" :=
    ⟨by decide, Or.inr ((afterLastColon_eq_self_iff trimmed).mp (by decide))⟩
  exact ⟨trimmed, filled, unmarked, isMark,
    (lone_value_eq_chain_iff "$proj(a.b.c)" none trimmed filled unmarked isMark).1.mpr
      (Or.inr changesNothing)⟩

/--
Alone, an alternative with a group of its own is asked for as it is written in
the group of the tag; a question mark behind it, and its own group has the value.
-/
theorem lone_group_not_found :
    let chain : ProjectChain :=
      { pathExists := fun _ => false
        lookup := fun ident group =>
          ⟨[.project ident group],
            .ok (if ident = "data" ∧ group = ⟨"com", "x", "y"⟩ then some "/v" else none)⟩
        follow := none }
    trim "(com.x.y): data" = "(com.x.y): data" ∧ "(com.x.y): data" ≠ "" ∧
      questionMarkOf? "(com.x.y): data" = none ∧
      chain.value "$proj(a.b.c)" "(com.x.y): data" =
        ⟨[.project "(com.x.y): data" ⟨"a", "b", "c"⟩], .ok none⟩ ∧
      Flow.value <$> chain.foldText "$proj(a.b.c)" "?" "(com.x.y): data" =
        ⟨[.project "data" ⟨"com", "x", "y"⟩], .ok (some "/v")⟩ ∧
      chain.value "$proj(a.b.c)" "(com.x.y): data?" =
        ⟨[.project "data" ⟨"com", "x", "y"⟩], .ok (some "/v")⟩ := by
  intro chain
  have pieces : trimmedPieces "?" "(com.x.y): data" = ["(com.x.y): data"] := by
    decide
  have marked : trimmedPieces "?" "(com.x.y): data?" = ["(com.x.y): data"] := by
    decide
  have nonempty : "?" ≠ "" := by
    decide
  have filled : "(com.x.y): data" ≠ "" := by
    decide
  have single : chain.onlyPiece "$proj(a.b.c)" "(com.x.y): data" =
      ⟨[.project "data" ⟨"com", "x", "y"⟩], .ok (some "/v")⟩ := by
    rfl
  refine ⟨by decide, filled, by decide, rfl, ?_, ?_⟩
  · rw [chain.foldText_of_single nonempty pieces filled, single]
  · have behind := chain.foldText_of_single nonempty marked filled "$proj(a.b.c)"
    rw [single] at behind
    rw [value, show questionMarkOf? "(com.x.y): data?" = some "?" by decide]
    simpa using behind

end ProjectChain

end PathExpr.Expr

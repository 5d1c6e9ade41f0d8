import PathExpr.Proofs.Chain.Plain

/-!
# Project chains

The fold over a project chain carries a chunk along: the text in which the
group of the alternatives stands.  At first that is the tag of the expression.
A piece with an opening parenthesis takes its place, unless the piece is
followed as a reference.

The chunk at a position depends on the pieces up to there alone, not on what
their lookups give.  Once every piece offers what it offers under the chunk of
its position, the fold is the same selection as that of a plain chain.
-/

namespace PathExpr.Expr

open PathExpr.Text

namespace ProjectChain

variable (chain : ProjectChain)

/-- What a trimmed piece offers, the group standing in `chunk`. -/
def offer (chunk piece : String) : Offer :=
  if piece = "" then .blank
  else
    match chain.followOf? piece with
    | some follow => .alternative (follow piece)
    | none =>
        match ProjectGroup.parse? chunk with
        | none => .malformed chunk
        | some group => .alternative (chain.lookup (afterLastColon piece) group)

/-- Whether a piece takes the place of the current chunk. -/
def switches (piece : String) : Bool :=
  contains "(" piece && (chain.followOf? piece).isNone

/-- The chunk at a position: the last piece up to there that took its place. -/
def chunkAt (first : String) (pieces : List String) (i : Nat) : String :=
  ((pieces.take (i + 1)).filter chain.switches).getLastD first

/-- What the pieces of a project chain offer. -/
def offers (first : String) (pieces : List String) : List Offer :=
  pieces.mapIdx fun i piece => chain.offer (chain.chunkAt first pieces i) piece

/-! ## The chunk at a position -/

theorem not_switches_empty : chain.switches "" = false := by
  rfl

theorem chunkAt_zero (first : String) {pieces : List String} {piece : String}
    (found : pieces[0]? = some piece) :
    chain.chunkAt first pieces 0 = if chain.switches piece then piece else first := by
  simp only [chunkAt, List.take_add_one (i := 0), found, List.take_zero, Option.toList_some,
    List.nil_append]
  cases switching : chain.switches piece <;> simp [switching]

@[simp]
theorem chunkAt_cons_succ (first piece : String) (rest : List String) (i : Nat) :
    chain.chunkAt first (piece :: rest) (i + 1) =
      chain.chunkAt (if chain.switches piece then piece else first) rest i := by
  cases switching : chain.switches piece <;>
    simp [chunkAt, switching, List.getLastD_eq_getLast?, List.getLast?_cons]

/-- From one position to the next, the chunk changes only at a piece that takes its place. -/
theorem chunkAt_succ (first : String) {pieces : List String} {i : Nat} {piece : String}
    (found : pieces[i + 1]? = some piece) :
    chain.chunkAt first pieces (i + 1) =
      if chain.switches piece then piece else chain.chunkAt first pieces i := by
  simp only [chunkAt, List.take_add_one (i := i + 1), found, Option.toList_some,
    List.filter_append]
  cases switching : chain.switches piece <;>
    simp [switching, List.getLastD_eq_getLast?]

/-! ## The fold is a selection -/

@[simp]
theorem isBlank_offer (chunk piece : String) :
    (chain.offer chunk piece).isBlank = decide (piece = "") := by
  unfold offer
  split
  · simp [Offer.isBlank, *]
  · split
    · simp [Offer.isBlank, *]
    · split <;> simp [Offer.isBlank, *]

@[simp]
theorem offers_nil (first : String) : chain.offers first [] = [] := by
  rfl

theorem offers_cons (first piece : String) (rest : List String) :
    chain.offers first (piece :: rest) =
      chain.offer (if chain.switches piece then piece else first) piece ::
        chain.offers (if chain.switches piece then piece else first) rest := by
  simp [offers, List.mapIdx_cons, chunkAt_zero]

theorem fold_eq_select (first : String) (held : Option String) (pieces : List String) :
    chain.fold first held pieces =
      select chain.pathExists held (chain.offers first pieces) := by
  induction pieces generalizing first held with
  | nil =>
      cases held <;> simp [fold, select]
  | cons piece rest ih =>
      rw [offers_cons]
      by_cases empty : piece = ""
      · subst empty
        cases held with
        | none =>
            simp [fold, offer, not_switches_empty, select, ih]
        | some value =>
            rw [fold, if_pos rfl, offer, if_pos rfl, not_switches_empty, select]
            apply bind_congr
            intro flow
            cases flow with
            | stop result => rfl
            | keep held => exact ih first held
      · cases held with
        | some value =>
            simp [fold, empty, select_some_cons]
        | none =>
            cases following : chain.followOf? piece with
            | some follow =>
                simp [fold, empty, offer, switches, following, select, ih]
            | none =>
                have switching : chain.switches piece = contains "(" piece := by
                  simp [switches, following]
                simp only [fold, empty, if_false, following, offer, switching]
                cases ProjectGroup.parse? (if contains "(" piece then piece else first) with
                | none => simp [select]
                | some group => simp [select, ih]

/-- Folding a project chain is the selection among what its pieces offer. -/
theorem foldText_eq_select {separator : String} (nonempty : separator ≠ "")
    (first s : String) :
    chain.foldText first separator s =
      select chain.pathExists none (chain.offers first (trimmedPieces separator s)) := by
  simp [foldText, terminated_eq nonempty, Traced.ofExcept, Traced.bind_of_ok, fold_eq_select,
    trimmedPieces]

/-! ## Chains of any length -/

/--
A project chain takes alternatives by the rule of a plain chain.  Each piece
offers, with the chunk of its position, either the value it has as a reference
or what its identifier is looked up as in the group of that chunk; a chunk
without a group ends the chain without a value, unless an alternative before it
is taken, and nothing behind it is looked up, followed or asked for as a path.
Only what is looked up or followed up to there needs an answer.  The chunk changes
exactly at the pieces with an opening parenthesis that are not followed as
references, whatever their lookups give.
-/
theorem foldText_takes_least (first : String) {separator : String}
    (nonempty : separator ≠ "") (s : String) :
    let pieces := trimmedPieces separator s
    let offers := chain.offers first pieces
    (∀ i value, (∀ offer ∈ offers.take (i + 1), offer.Answered) →
      Taken chain.pathExists offers i value → (∀ j < i, ¬ Ends chain.pathExists offers j) →
        chain.foldText first separator s =
          ⟨eventsTo chain.pathExists offers (i + 1), .ok (flowAt offers.length i value)⟩) ∧
    (∀ j chunk, (∀ offer ∈ offers.take (j + 1), offer.Answered) → Malformed offers j chunk →
      (∀ i < j, ∀ value, ¬ Taken chain.pathExists offers i value) →
        ∃ i ≤ j, (∃ chunk, Malformed offers i chunk) ∧
          chain.foldText first separator s =
            ⟨eventsTo chain.pathExists offers (i + 1), .ok (.stop none)⟩) ∧
    ((∀ offer ∈ offers, offer.Answered) → (∀ i, ¬ Ends chain.pathExists offers i) →
        chain.foldText first separator s =
          ⟨eventsTo chain.pathExists offers offers.length, .ok (.keep none)⟩) ∧
    (∀ i piece, pieces[i]? = some piece →
      chain.chunkAt first pieces i =
        if contains "(" piece ∧ chain.followOf? piece = none then piece
        else if i = 0 then first else chain.chunkAt first pieces (i - 1)) := by
  intro pieces offers
  have folded := chain.foldText_eq_select nonempty first s
  refine ⟨?_, ?_, ?_, ?_⟩
  · intro i value answered taken least
    rw [folded, select_of_taken chain.pathExists answered taken least]
  · intro j chunk answered malformed untaken
    obtain ⟨i, before, ends, least⟩ :=
      exists_least_end (show Ends chain.pathExists offers j from Or.inr ⟨chunk, malformed⟩)
    rcases ends with ⟨value, taken⟩ | ⟨chunkHere, malformedHere⟩
    · -- An alternative taken at `i` would stand before the malformed chunk at `j`.
      have same : i = j := by
        by_cases less : i < j
        · exact (untaken i less value taken).elim
        · omega
      subst same
      rcases taken with ⟨⟨offer, found, valued⟩, -⟩
      have found' : offers[i]? = some (.malformed chunk) := malformed
      rw [found, Option.some.injEq] at found'
      subst found'
      cases valued
    · refine ⟨i, before, ⟨chunkHere, malformedHere⟩, ?_⟩
      have answeredHere : ∀ offer ∈ offers.take (i + 1), offer.Answered := by
        intro offer member
        have earlier : i + 1 ≤ j + 1 := Nat.succ_le_succ before
        exact answered offer (List.take_subset_take_left offers earlier member)
      rw [folded, select_of_malformed chain.pathExists answeredHere malformedHere least]
  · intro answered nowhere
    rw [folded, select_of_no_end chain.pathExists answered nowhere]
  · intro i piece found
    have switching : chain.switches piece = true ↔
        contains "(" piece = true ∧ chain.followOf? piece = none := by
      simp [switches]
    cases i with
    | zero =>
        rw [chain.chunkAt_zero first found]
        simp [← switching]
    | succ i =>
        rw [chain.chunkAt_succ first found]
        simp [← switching]

/-- A followed piece keeps the group of the tag, and a group in a piece stays for those behind. -/
theorem foldText_takes_least_behind_switch :
    let chain : ProjectChain :=
      { pathExists := fun _ => false
        lookup := fun ident group =>
          ⟨[.project ident group], .ok (if ident = "data" then some group.application else none)⟩
        follow := some fun segment => ⟨[.reference segment], .ok none⟩ }
    "?" ≠ "" ∧
      chain.foldText "$proj(a.b.c)" "?" "x ? env * (h) ? y ? (a.b.z): x ? data ?" =
        ⟨[.project "x" ⟨"a", "b", "c"⟩, .reference "env * (h)", .project "y" ⟨"a", "b", "c"⟩,
          .project "x" ⟨"a", "b", "z"⟩, .project "data" ⟨"a", "b", "z"⟩],
          .ok (.keep (some "z"))⟩ := by
  intro chain
  have pieces : trimmedPieces "?" "x ? env * (h) ? y ? (a.b.z): x ? data ?" =
      ["x", "env * (h)", "y", "(a.b.z): x", "data"] := by
    decide
  have offers : chain.offers "$proj(a.b.c)" ["x", "env * (h)", "y", "(a.b.z): x", "data"] =
      [.alternative ⟨[.project "x" ⟨"a", "b", "c"⟩], .ok none⟩,
        .alternative ⟨[.reference "env * (h)"], .ok none⟩,
        .alternative ⟨[.project "y" ⟨"a", "b", "c"⟩], .ok none⟩,
        .alternative ⟨[.project "x" ⟨"a", "b", "z"⟩], .ok none⟩,
        .alternative ⟨[.project "data" ⟨"a", "b", "z"⟩], .ok (some "z")⟩] := by
    simp only [offers_cons, offers_nil, show chain.switches "x" = false from rfl,
      show chain.switches "env * (h)" = false from rfl, show chain.switches "y" = false from rfl,
      show chain.switches "(a.b.z): x" = true from rfl, show chain.switches "data" = false from rfl]
    rfl
  have run := chain.foldText_takes_least "$proj(a.b.c)" (show "?" ≠ "" by decide)
    "x ? env * (h) ? y ? (a.b.z): x ? data ?"
  simp only [pieces, offers] at run
  refine ⟨by decide, run.1 4 "z" ?_ ⟨⟨_, rfl, rfl⟩, Or.inl rfl⟩ ?_⟩
  · simp [Offer.Answered]
  · intro j less ends
    have verdict := verdictAt?_isSome_of_ends ends
    rcases j with _ | _ | _ | _ | j
    · cases verdict
    · cases verdict
    · cases verdict
    · cases verdict
    · omega

end ProjectChain

end PathExpr.Expr

import PathExpr.Proofs.Chain.Selection
import PathExpr.Proofs.Expr.Tokens

/-!
# Plain chains

In a plain chain every piece that is not empty offers what it is looked up as.
The fold over the pieces is the selection among these offers, so that a chain
takes the first alternative whose value is kept, and looks nothing up behind it.

A text without a question mark is its only alternative; it means the same as
the chain that has one piece.
-/

namespace PathExpr.Expr

open PathExpr.Text

/-- What a trimmed piece of a plain chain offers. -/
def Offer.ofPiece (lookup : Lookup) (piece : String) : Offer :=
  if piece = "" then .blank else .alternative (lookup piece)

/-- The trimmed pieces of a text that a separator ends. -/
def trimmedPieces (separator s : String) : List String :=
  (splitTerminated separator s).map trim

/-- What the pieces of a plain chain offer. -/
def plainOffers (lookup : Lookup) (separator s : String) : List Offer :=
  (trimmedPieces separator s).map (Offer.ofPiece lookup)

theorem Offer.answered_ofPiece {lookup : Lookup} {piece : String}
    (answers : ∃ value, (lookup piece).outcome = .ok value) :
    (Offer.ofPiece lookup piece).Answered := by
  unfold Offer.ofPiece
  split
  · trivial
  · exact answers

@[simp]
theorem Offer.isBlank_ofPiece (lookup : Lookup) (piece : String) :
    (Offer.ofPiece lookup piece).isBlank = decide (piece = "") := by
  unfold Offer.ofPiece
  split <;> simp [Offer.isBlank, *]

theorem not_malformed_plainOffers (lookup : Lookup) (separator s : String) (i : Nat)
    (chunk : String) : ¬ Malformed (plainOffers lookup separator s) i chunk := by
  intro malformed
  have member := List.mem_of_getElem? malformed
  rcases List.mem_map.mp member with ⟨piece, -, same⟩
  unfold Offer.ofPiece at same
  split at same <;> cases same

/-- The fold over pieces is the selection among what they offer. -/
theorem foldChain_eq_select (pathExists : String → Bool) (lookup : Lookup)
    (held : Option String) (pieces : List String) :
    foldChain pathExists lookup held pieces =
      select pathExists held (pieces.map (Offer.ofPiece lookup)) := by
  induction pieces generalizing held with
  | nil =>
      cases held <;> rfl
  | cons piece rest ih =>
      by_cases empty : piece = ""
      · cases held with
        | none =>
            simp [foldChain, chainStep, Offer.ofPiece, empty, select, ih]
        | some value =>
            rw [foldChain, chainStep, if_pos empty, List.map_cons, Offer.ofPiece, if_pos empty,
              select]
            apply bind_congr
            intro flow
            cases flow with
            | stop result => rfl
            | keep held => exact ih held
      · cases held with
        | none =>
            simp [foldChain, chainStep, Offer.ofPiece, empty, select, ih]
        | some value =>
            simp [foldChain, chainStep, empty, select_some_cons]

theorem foldText_eq_select (pathExists : String → Bool) (lookup : Lookup) {separator : String}
    (nonempty : separator ≠ "") (s : String) :
    foldText pathExists lookup separator s =
      select pathExists none (plainOffers lookup separator s) := by
  simp [foldText, terminated_eq nonempty, Traced.ofExcept, Traced.bind_of_ok,
    foldChain_eq_select, plainOffers, trimmedPieces]

theorem questionMarkOf?_ne_empty {s separator : String}
    (mark : questionMarkOf? s = some separator) : separator ≠ "" := by
  rcases questionMarkOf?_eq_some_iff.mp mark with ⟨_, _, _, _, rfl, _, _⟩
  simp

/-! ## One piece -/

/-- A chain whose only piece is a text looks the text up. -/
theorem foldText_of_single (pathExists : String → Bool) (lookup : Lookup)
    {separator s text : String} (nonempty : separator ≠ "")
    (single : trimmedPieces separator s = [text]) (filled : text ≠ "") :
    foldText pathExists lookup separator s = Flow.keep <$> lookup text := by
  rw [foldText_eq_select pathExists lookup nonempty, plainOffers, single]
  simp [Offer.ofPiece, filled, select]

theorem trimmedPieces_of_not_mem {mark : Char} {s : String} (absent : mark ∉ s.toList)
    (trimmed : trim s = s) (filled : s ≠ "") :
    trimmedPieces (String.singleton mark) s = [s] := by
  simp [trimmedPieces, splitTerminated_of_ne_empty filled, split_of_not_mem absent, filled,
    trimmed]

theorem trimmedPieces_append_mark {mark : Char} {s : String} (absent : mark ∉ s.toList)
    (trimmed : trim s = s) :
    trimmedPieces (String.singleton mark) (s ++ String.singleton mark) = [s] := by
  have filled : s ++ String.singleton mark ≠ "" := by
    simp
  have pieces : split (String.singleton mark) (s ++ String.singleton mark) = [s, ""] := by
    simp [split_singleton, List.splitOn_append_cons_self_of_not_mem absent]
  rw [trimmedPieces, splitTerminated_of_ne_empty filled, pieces]
  simp [trimmed]

theorem questionMarkOf?_append_mark {mark : Char} {s : String}
    (unmarked : questionMarkOf? s = none) (isMark : isQuestionMark mark = true) :
    questionMarkOf? (s ++ String.singleton mark) = some (String.singleton mark) :=
  questionMarkOf?_eq_some_iff.mpr
    ⟨s.toList, mark, [], by simp, rfl, isMark, questionMarkOf?_eq_none_iff.mp unmarked⟩

/-! ## Chains of any length -/

/--
A chain takes the least alternative whose value is kept.  Up to there, and no
further, every piece that is not empty is looked up once and from the left; a
value is asked for as a path exactly where an empty piece follows it, right
after its lookup.  Only the pieces that are looked up need an answer.  A trimmed
text without question marks has the value of its own lookup, as a chain of one
piece has.
-/
theorem chainValue_takes_least (pathExists : String → Bool) (lookup : Lookup) (s : String) :
    (∀ separator, questionMarkOf? s = some separator →
      let offers := plainOffers lookup separator s
      (∀ i value, (∀ offer ∈ offers.take (i + 1), offer.Answered) →
        Taken pathExists offers i value →
        (∀ j < i, ∀ other, ¬ Taken pathExists offers j other) →
          foldText pathExists lookup separator s =
            ⟨eventsTo pathExists offers (i + 1), .ok (flowAt offers.length i value)⟩ ∧
          chainValue pathExists lookup s =
            ⟨eventsTo pathExists offers (i + 1), .ok (some value)⟩) ∧
      ((∀ offer ∈ offers, offer.Answered) → (∀ i value, ¬ Taken pathExists offers i value) →
          foldText pathExists lookup separator s =
            ⟨eventsTo pathExists offers offers.length, .ok (.keep none)⟩ ∧
          chainValue pathExists lookup s =
            ⟨eventsTo pathExists offers offers.length, .ok none⟩)) ∧
    (questionMarkOf? s = none → trim s = s → s ≠ "" →
      chainValue pathExists lookup s = lookup s ∧
      ∀ mark, isQuestionMark mark = true →
        Flow.value <$> foldText pathExists lookup (String.singleton mark) s = lookup s ∧
        chainValue pathExists lookup (s ++ String.singleton mark) = lookup s) := by
  constructor
  · intro separator mark
    have nonempty := questionMarkOf?_ne_empty mark
    have folded := foldText_eq_select pathExists lookup nonempty s
    have valued : chainValue pathExists lookup s =
        Flow.value <$> foldText pathExists lookup separator s := by
      simp [chainValue, mark]
    have onlyTaken : ∀ j, (∀ other, ¬ Taken pathExists (plainOffers lookup separator s) j other) →
        ¬ Ends pathExists (plainOffers lookup separator s) j := by
      rintro j untaken (⟨value, taken⟩ | ⟨chunk, malformed⟩)
      · exact untaken value taken
      · exact not_malformed_plainOffers lookup separator s j chunk malformed
    refine ⟨?_, ?_⟩
    · intro i value answered taken least
      rw [valued, folded, select_of_taken pathExists answered taken
        (fun j less => onlyTaken j (least j less))]
      exact ⟨rfl, by simp⟩
    · intro answered nowhere
      rw [valued, folded, select_of_no_end pathExists answered
        (fun j => onlyTaken j (nowhere j))]
      exact ⟨rfl, by simp [Flow.value]⟩
  · intro unmarked trimmed filled
    have direct : chainValue pathExists lookup s = lookup s := by
      simp [chainValue, unmarked]
    refine ⟨direct, fun mark isMark => ?_⟩
    have absent : mark ∉ s.toList := by
      intro member
      simp [questionMarkOf?_eq_none_iff.mp unmarked mark member] at isMark
    have nonempty : String.singleton mark ≠ "" := by
      simp
    have oneLookup : ∀ text, trimmedPieces (String.singleton mark) text = [s] →
        Flow.value <$> foldText pathExists lookup (String.singleton mark) text = lookup s := by
      intro text single
      rw [foldText_of_single pathExists lookup nonempty single filled]
      simp [Flow.value]
    refine ⟨oneLookup s (trimmedPieces_of_not_mem absent trimmed filled), ?_⟩
    have marked := questionMarkOf?_append_mark unmarked isMark
    have final := oneLookup _ (trimmedPieces_append_mark absent trimmed)
    rw [chainValue, marked]
    simpa using final

/-- The value of `a` is not a path that exists, so that `b` is taken and `c` never looked up. -/
theorem chainValue_takes_least_behind_missing :
    let lookup : Lookup := fun ident =>
      ⟨[.lookup .env ident],
        .ok (if ident = "a" then some "/a" else if ident = "b" then some "/b" else none)⟩
    questionMarkOf? "x ? a ?? b ? c" = some "?" ∧
      chainValue (fun _ => false) lookup "x ? a ?? b ? c" =
        ⟨[.lookup .env "x", .lookup .env "a", .probe "/a", .note (.missing "/a"),
          .lookup .env "b"], .ok (some "/b")⟩ := by
  intro lookup
  have mark : questionMarkOf? "x ? a ?? b ? c" = some "?" := by
    decide
  have offers : plainOffers lookup "?" "x ? a ?? b ? c" =
      ["x", "a", "", "b", "c"].map (Offer.ofPiece lookup) := by
    rw [plainOffers, show trimmedPieces "?" "x ? a ?? b ? c" = ["x", "a", "", "b", "c"] by decide]
  have taken : Taken (fun _ => false) (plainOffers lookup "?" "x ? a ?? b ? c") 3 "/b" := by
    rw [offers]
    exact ⟨⟨_, rfl, rfl⟩, Or.inr (Or.inl ⟨_, rfl, rfl⟩)⟩
  have least : ∀ j < 3, ∀ other,
      ¬ Taken (fun _ => false) (plainOffers lookup "?" "x ? a ?? b ? c") j other := by
    intro j less other takenEarlier
    have verdict := verdictAt?_of_taken takenEarlier
    rw [offers] at verdict
    rcases j with _ | _ | _ | j
    · cases verdict
    · cases verdict
    · cases verdict
    · omega
  have answered : ∀ offer ∈ (plainOffers lookup "?" "x ? a ?? b ? c").take (3 + 1),
      offer.Answered := by
    intro offer member
    rcases List.mem_map.mp (List.mem_of_mem_take member) with ⟨piece, -, rfl⟩
    exact Offer.answered_ofPiece ⟨_, rfl⟩
  obtain ⟨-, valued⟩ :=
    ((chainValue_takes_least (fun _ => false) lookup "x ? a ?? b ? c").1 "?" mark).1
      3 "/b" answered taken least
  constructor
  · exact mark
  · rw [valued, offers]
    rfl

end PathExpr.Expr

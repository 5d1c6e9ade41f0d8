import PathExpr.Proofs.Chain.Project
import PathExpr.Proofs.Resolve.Element
import PathExpr.Proofs.Resolve.Referral

/-!
# Alternatives in their place

An alternative stands in an expression of a namespace, and in an expression of
a project either in a chain, where the chunk of its position says which group
it belongs to, or alone behind the tag.  Its place says how it is folded and
what it asks for when it is no reference.

From there on an alternative comes to one question at most, and the question
can be told without asking anyone.  The value of an expression is read off the
values that the written alternatives have in their places.
-/

namespace PathExpr

open PathExpr.Expr PathExpr.Text

/-- The question that a target comes to, if any. -/
def Target.referral? (config : Config) : Target → Option Referral
  | .question asked => some ⟨[], asked⟩
  | .reference text => PathExpr.referral? config text

/-- Where an alternative stands. -/
inductive Place where
  /-- In an expression that is not of a project. -/
  | plain (ns : Namespace) (single : ns ≠ .proj)
  /-- Among the alternatives of a project, whose group stands in the chunk. -/
  | piece (chunk : String)
  /-- As all there is behind the tag of a project. -/
  | alone (tag : String)

namespace Place

def ns : Place → Namespace
  | plain ns _ => ns
  | piece _ => .proj
  | alone _ => .proj

/-- An alternative as it is looked at: folded, unless it is written as a reference. -/
def folded (place : Place) (alternative : String) : String :=
  foldPiece (foldFor place.ns) alternative

/-- What a folded alternative that is no reference asks for. -/
def own? : Place → String → Option Question
  | plain ns single, text => some (.plain ns single text)
  | piece chunk, text =>
      (ProjectGroup.parse? chunk).map fun group => .project group (afterLastColon text)
  | alone tag, text => (ProjectGroup.parse? tag).map fun group => .project group text

/-- What an alternative is taken for. -/
def target? (place : Place) (alternative : String) : Option Target :=
  if startsReference (place.folded alternative) then
    some (.reference (place.folded alternative))
  else (place.own? (place.folded alternative)).map Target.of

/-- The question that an alternative comes to, if any. -/
def referral? (config : Config) (place : Place) (alternative : String) : Option Referral :=
  (place.target? alternative).bind (Target.referral? config)

theorem ns_of_own? {place : Place} {text : String} {asked : Question}
    (own : place.own? text = some asked) : asked.ns = place.ns := by
  cases place with
  | plain ns single =>
      cases own
      rfl
  | piece chunk =>
      rcases Option.map_eq_some_iff.mp own with ⟨group, -, rfl⟩
      rfl
  | alone tag =>
      rcases Option.map_eq_some_iff.mp own with ⟨group, -, rfl⟩
      rfl

/-- Only what is followed as a reference can lead out of the namespace. -/
theorem ns_of_question {place : Place} {alternative : String} {asked : Question}
    (found : place.target? alternative = some (.question asked)) : asked.ns = place.ns := by
  unfold target? at found
  split at found
  · cases found
  · rcases Option.map_eq_some_iff.mp found with ⟨own, known, same⟩
    unfold Target.of at same
    split at same
    · cases same
    · cases same
      exact ns_of_own? known

theorem folded_of_reference {place : Place} {alternative : String}
    (reference : startsReference alternative = true) :
    place.folded alternative = alternative := by
  simp [folded, foldPiece, reference]

theorem target?_of_reference {place : Place} {alternative : String}
    (reference : startsReference alternative = true) :
    place.target? alternative = some (.reference alternative) := by
  simp [target?, folded_of_reference reference, reference]

/-- Among environment variables only what is written as a reference is followed as one. -/
theorem target?_env {place : Place} (env : place.ns = .env) {alternative : String}
    (plain : startsReference alternative = false) (text : String) :
    place.target? alternative ≠ some (.reference text) := by
  cases place with
  | piece chunk => cases env
  | alone tag => cases env
  | plain ns single =>
      obtain rfl : ns = .env := env
      have folded : (Place.plain .env single).folded alternative = foldEnvIdent alternative := by
        simp [folded, foldPiece, plain, ns, foldFor]
      have name := startsReference_foldEnvIdent alternative
      simp [target?, folded, name, own?, Target.of, Question.ident]

end Place

/-! ## Values -/

namespace Resolver

variable (resolver : Resolver)

/-- The value of an alternative in its place. -/
def valueAt (place : Place) (alternative : String) : Traced (Option String) :=
  let text := place.folded alternative
  match place with
  | .plain ns _ => resolver.lookup ns text
  | .piece chunk =>
      if startsReference text then resolver.follow text
      else
        match ProjectGroup.parse? chunk with
        | none => return none
        | some group => resolver.lookupProject (afterLastColon text) group
  | .alone tag =>
      if startsReference text then resolver.follow text
      else
        match ProjectGroup.parse? tag with
        | none => return none
        | some group => resolver.lookupProject text group

theorem valueAt_eq_reachIfAny (place : Place) (alternative : String) :
    resolver.valueAt place alternative = resolver.reachIfAny (place.target? alternative) := by
  have lookedUp := fun group ident => resolver.lookupProject_eq_reach group ident
  cases reference : startsReference (place.folded alternative) with
  | true =>
      cases place with
      | plain ns single =>
          simp only [valueAt, lookup, Place.target?, reference, if_true, reachIfAny, reach]
      | piece chunk | alone tag =>
          simp only [valueAt, Place.target?, reference, if_true, reachIfAny, reach]
  | false =>
      cases place with
      | plain ns single =>
          simp only [valueAt, Place.target?, reference, Bool.false_eq_true, if_false, Place.own?,
            Option.map_some, reachIfAny, resolver.lookup_eq_reach single]
      | piece chunk =>
          simp only [valueAt, Place.target?, reference, Bool.false_eq_true, if_false, Place.own?]
          cases ProjectGroup.parse? chunk with
          | none => rfl
          | some group => exact lookedUp group _
      | alone tag =>
          simp only [valueAt, Place.target?, reference, Bool.false_eq_true, if_false, Place.own?]
          cases ProjectGroup.parse? tag with
          | none => rfl
          | some group => exact lookedUp group _

/-- An alternative is asked for as what it comes to. -/
theorem valueAt_eq_answer (place : Place) (alternative : String) :
    resolver.valueAt place alternative =
      resolver.answer (place.referral? resolver.config alternative) := by
  rw [valueAt_eq_reachIfAny, Place.referral?]
  rcases place.target? alternative with _ | asked | text
  · rfl
  · rfl
  · exact resolver.follow_eq_answer text

/-- The value of an expression that is not of a project, read off its written alternatives. -/
theorem evaluate_plain {ns : Namespace} (single : ns ≠ .proj) (tag remainder : String) :
    resolver.evaluate ns tag remainder =
      chainValue resolver.pathExists (resolver.valueAt (.plain ns single)) remainder := by
  have looked : resolver.written ns = resolver.valueAt (.plain ns single) := by
    funext alternative
    rw [← lookup_foldPiece]
    rfl
  rw [evaluate_eq_chainValue _ single, looked]

/-- What a chain of a project looks its alternatives up with. -/
def projectChain : ProjectChain :=
  ⟨resolver.pathExists, resolver.lookupProject, some resolver.follow⟩

/-- What a trimmed alternative of a project offers, the group standing in the chunk. -/
def offerAt (chunk alternative : String) : Offer :=
  if alternative = "" then .blank
  else if startsReference ((Place.piece chunk).folded alternative) = false ∧
      ProjectGroup.parse? chunk = none then .malformed chunk
  else .alternative (resolver.valueAt (.piece chunk) alternative)

/-- What the trimmed alternatives behind the tag of a project offer. -/
def projectOffers (tag : String) (alternatives : List String) : List Offer :=
  alternatives.mapIdx fun i alternative =>
    resolver.offerAt
      (resolver.projectChain.chunkAt tag (alternatives.map (foldPiece foldIdent)) i) alternative

theorem offer_folded (chunk alternative : String) :
    resolver.projectChain.offer chunk (foldPiece foldIdent alternative) =
      resolver.offerAt chunk alternative := by
  have empty := transparent_foldIdent.foldPiece.fold_eq_empty_iff alternative
  have folded : (Place.piece chunk).folded alternative = foldPiece foldIdent alternative := rfl
  simp only [ProjectChain.offer, offerAt, empty, folded, ProjectChain.followOf?, projectChain]
  by_cases blank : alternative = ""
  · rw [if_pos blank, if_pos blank]
  · rw [if_neg blank, if_neg blank]
    cases reference : startsReference (foldPiece foldIdent alternative) with
    | true => simp [valueAt, folded, reference]
    | false =>
        cases parsed : ProjectGroup.parse? chunk with
        | none => simp
        | some group => simp [valueAt, folded, reference, parsed]

/-- The value of an expression of a project, read off its written alternatives. -/
theorem evaluate_project (tag remainder : String) :
    resolver.evaluate .proj tag remainder =
      match questionMarkOf? remainder with
      | none => resolver.valueAt (.alone tag) remainder
      | some separator =>
          Flow.value <$> select resolver.pathExists none
            (resolver.projectOffers tag (trimmedPieces separator remainder)) := by
  have detected := questionMarkOf?_foldIdents transparent_foldIdent remainder
  have unfolded : resolver.evaluate .proj tag remainder =
      resolver.projectChain.value tag (foldIdents foldIdent remainder) := rfl
  rw [unfolded, ProjectChain.value, detected]
  cases marked : questionMarkOf? remainder with
  | none =>
      have folded : (Place.alone tag).folded remainder = foldPiece foldIdent remainder := rfl
      simp only [foldIdents_of_none foldIdent marked, ProjectChain.followOf?, projectChain, valueAt,
        folded]
      cases reference : startsReference (foldPiece foldIdent remainder) with
      | true => simp
      | false =>
          cases ProjectGroup.parse? tag with
          | none => simp
          | some group => simp
  | some separator =>
      have nonempty := questionMarkOf?_ne_empty marked
      have pieces := trimmedPieces_foldIdents transparent_foldIdent marked
      have offered : resolver.projectChain.offers tag
          ((trimmedPieces separator remainder).map (foldPiece foldIdent)) =
          resolver.projectOffers tag (trimmedPieces separator remainder) := by
        apply List.ext_getElem?
        intro i
        simp only [ProjectChain.offers, projectOffers, List.getElem?_mapIdx, List.getElem?_map,
          Option.map_map]
        simp only [Function.comp_def, offer_folded]
      simp only [resolver.projectChain.foldText_eq_select nonempty, pieces, offered,
        map_eq_pure_bind]
      rfl

end Resolver

end PathExpr

import PathExpr.Proofs.Chain.Project
import PathExpr.Proofs.Resolve.Referral

/-!
# What providers do, resolution does

Besides asking providers, resolution probes paths and makes remarks, and nothing
else.  So whatever holds of a computation without events, of a probe, of a
remark, and of all that the providers of the enabled namespaces do when they are
asked, and what holds of two computations in a row once it holds of both, holds
of everything that a resolution does.

Such a property is a parameter.  One step of each kind preserves it: an offer of
a chain, a reference, an element.  The results for chains, for expressions and
for whole sequences follow by induction.  What may be done and which faults may
end it is one such property.
-/

namespace PathExpr

open PathExpr.Expr PathExpr.Text

/-! ## Properties that the steps preserve -/

namespace Traced

/-- A property of computations that holds of the steps of a resolution other than questions. -/
structure Discipline where
  Holds : {α : Type} → Traced α → Prop
  pure : ∀ {α : Type} (value : α), Holds (pure value : Traced α)
  bind : ∀ {α β : Type} {first : Traced α} {next : α → Traced β}, Holds first →
    (∀ value, Holds (next value)) → Holds (first >>= next)
  probe : ∀ path, Holds (emit (.probe path))
  remark : ∀ note, Holds (remark note)

end Traced

open Traced

/-! ## Chains -/

namespace Expr

variable (discipline : Discipline)

/-- The computation that an offer may be has the property. -/
def Offer.Holds : Offer → Prop
  | .alternative answer => discipline.Holds answer
  | _ => True

variable (pathExists : String → Bool)

theorem confirmHeld_holds (held : String) : discipline.Holds (confirmHeld pathExists held) := by
  refine discipline.bind (discipline.probe held) fun _ => ?_
  split
  · exact discipline.pure _
  · exact discipline.bind (discipline.remark _) fun _ => discipline.pure _

/-- A selection does what its offers do, and confirms what it holds. -/
theorem select_holds {offers : List Offer} (kept : ∀ offer ∈ offers, offer.Holds discipline)
    (held : Option String) : discipline.Holds (select pathExists held offers) := by
  induction offers generalizing held with
  | nil => cases held <;> exact discipline.pure _
  | cons offer rest ih =>
      have onward := ih fun other member => kept other (List.mem_cons_of_mem _ member)
      cases held with
      | none =>
          cases offer with
          | blank => exact onward none
          | alternative answer =>
              have answered : discipline.Holds answer :=
                kept (.alternative answer) List.mem_cons_self
              exact discipline.bind answered onward
          | malformed chunk =>
              exact discipline.bind (discipline.remark _) fun _ => discipline.pure _
      | some value =>
          cases offer with
          | blank =>
              refine discipline.bind (confirmHeld_holds discipline pathExists value)
                fun flow => ?_
              cases flow with
              | stop result => exact discipline.pure _
              | keep held => exact onward held
          | alternative answer => exact discipline.pure _
          | malformed chunk => exact discipline.pure _

theorem chainValue_holds {lookup : Lookup} (looked : ∀ ident, discipline.Holds (lookup ident))
    (s : String) : discipline.Holds (chainValue pathExists lookup s) := by
  unfold chainValue
  split
  · exact looked s
  · next separator marked =>
    rw [foldText_eq_select pathExists lookup (questionMarkOf?_ne_empty marked)]
    refine discipline.bind (select_holds discipline pathExists ?_ none)
      fun flow => discipline.pure _
    intro offer member
    rcases List.mem_map.mp member with ⟨piece, -, rfl⟩
    unfold Offer.ofPiece
    split
    · trivial
    · exact looked piece

theorem ProjectChain.value_holds (chain : ProjectChain)
    (looked : ∀ ident group, discipline.Holds (chain.lookup ident group))
    (followed : ∀ follow, chain.follow = some follow →
      ∀ segment, discipline.Holds (follow segment))
    (first s : String) : discipline.Holds (chain.value first s) := by
  have following : ∀ segment follow, chain.followOf? segment = some follow →
      discipline.Holds (follow segment) := by
    intro segment follow found
    unfold followOf? at found
    split at found
    · exact followed follow found segment
    · cases found
  unfold value
  split
  · next separator marked =>
    rw [chain.foldText_eq_select (questionMarkOf?_ne_empty marked)]
    refine discipline.bind (select_holds discipline chain.pathExists ?_ none)
      fun flow => discipline.pure _
    intro offer member
    rcases List.mem_mapIdx.mp member with ⟨i, _, rfl⟩
    unfold ProjectChain.offer
    split
    · trivial
    · split
      · next follow found => exact following _ follow found
      · split
        · trivial
        · exact looked _ _
  · split
    · next follow found => exact following s follow found
    · split
      · exact discipline.pure _
      · exact looked _ _

end Expr

/-! ## References -/

theorem ns_of_namedBy? {ns : Namespace} {ident : String} {asked : Question}
    (named : namedBy? ns ident = some (.question asked)) : asked.ns = ns := by
  have ofQuestion : ∀ question, Target.of question = .question asked → asked = question := by
    intro question same
    unfold Target.of at same
    split at same
    · cases same
    · cases same
      rfl
  cases ns with
  | env =>
      cases named
      rfl
  | dir | const | val =>
      rw [ofQuestion _ (Option.some.inj named)]
      rfl
  | proj =>
      rcases Option.map_eq_some_iff.mp named with ⟨parts, -, same⟩
      rw [ofQuestion _ same]
      rfl

/-- However many references lead to a question, its namespace is enabled. -/
theorem enabled_of_referral? {config : Config} {segment : String} {referral : Referral}
    (leads : referral? config segment = some referral) :
    config.enabled referral.question.ns = true := by
  unfold referral? at leads
  fun_induction walk (target? config) length_reference segment generalizing referral with
  | case1 segment nowhere =>
      cases leads
  | case2 segment asked found =>
      cases leads
      rcases target?_eq_some_iff.mp found with ⟨ns, ident, -, -, enabled, named⟩
      rw [ns_of_namedBy? named]
      exact enabled
  | case3 segment text found shorter ih =>
      rcases Option.map_eq_some_iff.mp leads with ⟨inner, onward, rfl⟩
      have enabled := ih onward
      exact enabled

/-! ## Resolution -/

namespace Resolver

section Run

variable {discipline : Discipline} {resolver : Resolver}

theorem handBack_holds {answer : Traced (Option String)} (answered : discipline.Holds answer)
    (body : String) : discipline.Holds (handBack body answer) := by
  refine discipline.bind answered fun value => ?_
  cases value with
  | none => exact discipline.pure _
  | some text => exact discipline.bind (discipline.remark _) fun _ => discipline.pure _

theorem answer_holds {referral : Referral}
    (asking : discipline.Holds (resolver.put referral.question)) :
    discipline.Holds (resolver.answer (some referral)) := by
  rcases referral with ⟨bodies, asked⟩
  simp only [answer]
  generalize resolver.put asked = value at asking
  induction bodies generalizing value with
  | nil => exact asking
  | cons body rest ih => exact ih _ (handBack_holds asking body)

variable (within : ∀ asked : Question, resolver.config.enabled asked.ns = true →
  discipline.Holds (resolver.put asked))

include within

theorem follow_holds (segment : String) : discipline.Holds (resolver.follow segment) := by
  rw [follow_eq_answer]
  cases leads : referral? resolver.config segment with
  | none => exact discipline.pure _
  | some referral => exact answer_holds (within referral.question (enabled_of_referral? leads))

theorem lookup_holds {ns : Namespace} (single : ns ≠ .proj)
    (enabled : resolver.config.enabled ns = true) (ident : String) :
    discipline.Holds (resolver.lookup ns ident) := by
  unfold lookup
  split
  · exact follow_holds within ident
  · exact within (.plain ns single ident) enabled

theorem lookupProject_holds (enabled : resolver.config.enabled .proj = true) (ident : String)
    (group : ProjectGroup) : discipline.Holds (resolver.lookupProject ident group) := by
  unfold lookupProject
  split
  · exact follow_holds within ident
  · exact within (.project group ident) enabled

theorem evaluate_holds {ns : Namespace} (enabled : resolver.config.enabled ns = true)
    (tag remainder : String) : discipline.Holds (resolver.evaluate ns tag remainder) := by
  cases ns with
  | proj =>
      refine ProjectChain.value_holds discipline _ (lookupProject_holds within enabled) ?_ _ _
      rintro follow same
      cases same
      exact follow_holds within
  | env | dir | const | val =>
      exact chainValue_holds discipline _ (lookup_holds within (by decide) enabled) _

omit within in
/-- Only the tag of an enabled namespace is recognized. -/
theorem enabled_of_recognize {s : String} {ns : Namespace} {parts : List String}
    (recognized : resolver.recognize s = (some ns, parts)) :
    resolver.config.enabled ns = true := by
  unfold recognize at recognized
  split at recognized
  · have found := (Prod.mk.inj recognized).1
    exact (Option.filter_eq_some_iff.mp found).2
  · cases recognized

theorem resolveElement_holds (s : String) : discipline.Holds (resolver.resolveElement s) := by
  unfold resolveElement
  dsimp only
  split
  · next ns tag remainder recognized =>
    have enabled := enabled_of_recognize recognized
    refine discipline.bind (evaluate_holds within enabled tag remainder) fun value => ?_
    exact discipline.bind (discipline.remark _) fun _ => discipline.pure _
  · exact discipline.pure _

theorem pathFrom_holds (raw : List String) (path : Path) :
    discipline.Holds (resolver.pathFrom path raw) := by
  induction raw generalizing path with
  | nil => exact discipline.pure _
  | cons s rest ih =>
      refine discipline.bind (resolveElement_holds within s) fun element => ?_
      cases element with
      | literal text => exact discipline.bind (discipline.remark _) fun _ => ih _
      | expression value =>
          cases value with
          | none => exact discipline.bind (discipline.remark _) fun _ => discipline.pure _
          | some text => exact ih _

/-- Resolving a sequence has the property that asking its providers has. -/
theorem pathOf_holds (raw : List String) : discipline.Holds (resolver.pathOf raw) :=
  pathFrom_holds within raw Path.empty

end Run

end Resolver

/-! ## Rules -/

/-- What may be done, and with which faults a computation may end. -/
structure Conduct where
  event : Event → Prop
  fault : Fault → Prop

/-- Probes and remarks are allowed. -/
structure Conduct.Lenient (conduct : Conduct) : Prop where
  probe : ∀ path, conduct.event (.probe path)
  note : ∀ remark, conduct.event (.note remark)

namespace Traced

variable {α β : Type} {conduct : Conduct}

/-- All that is done, and the fault at the end if there is one, are allowed. -/
structure Keeps (conduct : Conduct) (computation : Traced α) : Prop where
  events : ∀ event ∈ computation.events, conduct.event event
  faults : ∀ fault, computation.outcome = .error fault → conduct.fault fault

theorem keeps_pure (value : α) : Keeps conduct (pure value : Traced α) := by
  constructor
  · intro event member
    simp at member
  · intro fault failed
    cases failed

theorem keeps_emit {event : Event} (allowed : conduct.event event) :
    Keeps conduct (emit event) := by
  constructor
  · intro other member
    obtain rfl := List.mem_singleton.mp member
    exact allowed
  · intro fault failed
    cases failed

/-- One computation after another keeps the rules that both keep. -/
theorem Keeps.bind {first : Traced α} {next : α → Traced β} (before : Keeps conduct first)
    (after : ∀ value, Keeps conduct (next value)) : Keeps conduct (first >>= next) := by
  cases ended : first.outcome with
  | error fault =>
      rw [bind_of_error ended]
      refine ⟨before.events, ?_⟩
      intro other failed
      cases failed
      exact before.faults fault ended
  | ok value =>
      rw [bind_of_ok ended]
      refine ⟨?_, (after value).faults⟩
      intro event member
      rcases List.mem_append.mp member with early | late
      · exact before.events event early
      · exact (after value).events event late

/-- A computation that may end with no fault has a value. -/
theorem Keeps.exists_value {computation : Traced α} (keeps : Keeps conduct computation)
    (faultless : ∀ fault, ¬ conduct.fault fault) :
    ∃ value, computation.outcome = .ok value := by
  cases ended : computation.outcome with
  | error fault => exact (faultless fault (keeps.faults fault ended)).elim
  | ok value => exact ⟨value, rfl⟩

/-- Keeping rules that allow probes and remarks is preserved by the steps of a resolution. -/
def Keeps.discipline {conduct : Conduct} (lenient : conduct.Lenient) : Discipline where
  Holds := Keeps conduct
  pure := keeps_pure
  bind := Keeps.bind
  probe path := keeps_emit (lenient.probe path)
  remark note := keeps_emit (lenient.note note)

end Traced

namespace Resolver

/-- Asking the provider of an enabled namespace keeps the rules. -/
def AsksWithin (resolver : Resolver) (conduct : Conduct) : Prop :=
  ∀ asked : Question, resolver.config.enabled asked.ns = true →
    Keeps conduct (resolver.put asked)

/-- Resolving a sequence keeps the rules that asking its providers keeps. -/
theorem pathOf_keeps {conduct : Conduct} (lenient : conduct.Lenient) {resolver : Resolver}
    (within : resolver.AsksWithin conduct) (raw : List String) :
    Keeps conduct (resolver.pathOf raw) :=
  @pathOf_holds (Keeps.discipline lenient) resolver within raw

end Resolver

end PathExpr

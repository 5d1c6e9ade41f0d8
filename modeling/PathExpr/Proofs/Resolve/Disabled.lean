import PathExpr.Proofs.Resolve.Conduct
import PathExpr.Proofs.Resolve.Confinement

/-!
# Disabled namespaces

A namespace that the configuration switches off is out of reach.  Two places
check this: the tag of an expression is not recognized, and a reference to the
namespace names nothing, however deep in other references it stands and also
inside the chain of a project.

So no resolution asks the provider of a disabled namespace, and two bundles of
providers that differ only there cannot be told apart by resolving: neither by
the path, nor by a fault, nor by anything that is done on the way.
-/

namespace PathExpr

open PathExpr.Expr PathExpr.Text
open Traced

/-- The namespace whose provider an event asks. -/
def Event.asked? : Event → Option Namespace
  | .lookup ns _ => some ns
  | .project _ _ => some .proj
  | _ => none

/-- The provider of the namespace does it on its own, for some identifier. -/
def Providers.Does (providers : Providers) : Namespace → Event → Prop
  | .env, event => ∃ ident, event ∈ (providers.env ident).events
  | .dir, event => ∃ ident, event ∈ (providers.dir ident).events
  | .const, event => ∃ ident, event ∈ (providers.const ident).events
  | .val, event => ∃ ident, event ∈ (providers.val ident).events
  | .proj, event => ∃ ident group, event ∈ (providers.proj ident group).events

namespace Resolver

/-! ## What is asked -/

/-- Asking a question is one call, and what the provider does on its own. -/
theorem asked_of_mem_put {resolver : Resolver} {asked : Question} {event : Event}
    (member : event ∈ (resolver.put asked).events) :
    event.asked? = some asked.ns ∨ resolver.providers.Does asked.ns event := by
  cases asked with
  | project group ident =>
      rw [put, askProject, events_bind_of_ok rfl] at member
      rcases List.mem_cons.mp member with rfl | own
      · exact Or.inl rfl
      · exact Or.inr ⟨ident, group, own⟩
  | plain ns single ident =>
      cases ns with
      | proj => exact (single rfl).elim
      | env | dir | const | val =>
          rw [put, ask, events_bind_of_ok rfl] at member
          rcases List.mem_cons.mp member with rfl | own
          · exact Or.inl rfl
          · exact Or.inr ⟨ident, own⟩

/-- Only enabled namespaces are asked, unless one of their providers asks on its own. -/
def askingEnabled (config : Config) (providers : Providers) : Conduct where
  event event := ∀ ns, event.asked? = some ns → config.enabled ns = true ∨
    ∃ other, config.enabled other = true ∧ providers.Does other event
  fault _ := True

theorem lenient_askingEnabled (config : Config) (providers : Providers) :
    (askingEnabled config providers).Lenient := by
  constructor
  · intro path ns asked
    cases asked
  · intro remark ns asked
    cases asked

theorem asksWithin_askingEnabled (resolver : Resolver) :
    resolver.AsksWithin (askingEnabled resolver.config resolver.providers) := by
  intro asked enabled
  constructor
  · intro event member ns found
    rcases asked_of_mem_put member with call | own
    · obtain rfl : ns = asked.ns := Option.some.inj (found.symm.trans call)
      exact Or.inl enabled
    · exact Or.inr ⟨asked.ns, enabled, own⟩
  · intro fault failed
    trivial

/-! ## What has influence -/

section TwoRuns

variable {config : Config} {first second : Providers} (pathExists : String → Bool)
variable (agree : ∀ ns, config.enabled ns = true → first.AgreeAt second ns)

include agree

theorem put_enabled_congr (asked : Question) (enabled : config.enabled asked.ns = true) :
    put ⟨config, first, pathExists⟩ asked = put ⟨config, second, pathExists⟩ asked :=
  put_congr (agree asked.ns enabled)

theorem follow_congr (segment : String) :
    follow ⟨config, first, pathExists⟩ segment = follow ⟨config, second, pathExists⟩ segment := by
  simp only [follow_eq_answer]
  cases leads : referral? config segment with
  | none => rfl
  | some referral =>
      simp only [answer, put_enabled_congr pathExists agree _ (enabled_of_referral? leads)]

theorem lookup_congr {ns : Namespace} (single : ns ≠ .proj) (enabled : config.enabled ns = true) :
    lookup ⟨config, first, pathExists⟩ ns = lookup ⟨config, second, pathExists⟩ ns := by
  funext ident
  have asked := put_enabled_congr pathExists agree (.plain ns single ident) enabled
  simp only [put] at asked
  rw [lookup, lookup, follow_congr pathExists agree, asked]

theorem lookupProject_congr (enabled : config.enabled .proj = true) :
    lookupProject ⟨config, first, pathExists⟩ = lookupProject ⟨config, second, pathExists⟩ := by
  funext ident group
  have asked := put_enabled_congr pathExists agree (.project group ident) enabled
  simp only [put] at asked
  rw [lookupProject, lookupProject, follow_congr pathExists agree, asked]

theorem evaluate_congr {ns : Namespace} (enabled : config.enabled ns = true)
    (tag remainder : String) :
    evaluate ⟨config, first, pathExists⟩ ns tag remainder =
      evaluate ⟨config, second, pathExists⟩ ns tag remainder := by
  cases ns with
  | proj =>
      have followed : follow ⟨config, first, pathExists⟩ = follow ⟨config, second, pathExists⟩ :=
        funext (follow_congr pathExists agree)
      have looked := lookupProject_congr pathExists agree enabled
      have same : projectChain ⟨config, first, pathExists⟩ =
          projectChain ⟨config, second, pathExists⟩ := by
        rw [projectChain, projectChain, looked, followed]
      exact congrArg (ProjectChain.value · tag (foldIdents foldIdent remainder)) same
  | env | dir | const | val =>
      have looked := lookup_congr pathExists agree (by decide) enabled
      exact congrArg (fun lookup => chainValue pathExists lookup _) looked

theorem resolveElement_congr (s : String) :
    resolveElement ⟨config, first, pathExists⟩ s =
      resolveElement ⟨config, second, pathExists⟩ s := by
  have same : recognize ⟨config, second, pathExists⟩ (trim s) =
      recognize ⟨config, first, pathExists⟩ (trim s) := by
    simp only [recognize]
  unfold resolveElement
  simp only [same]
  split
  · next ns tag remainder recognized =>
    rw [evaluate_congr pathExists agree (enabled_of_recognize recognized)]
  · rfl

theorem pathFrom_congr (raw : List String) (path : Path) :
    pathFrom ⟨config, first, pathExists⟩ path raw =
      pathFrom ⟨config, second, pathExists⟩ path raw := by
  induction raw generalizing path with
  | nil => rfl
  | cons s rest ih => simp only [pathFrom, resolveElement_congr pathExists agree, ih]

end TwoRuns

/--
A disabled namespace is out of reach: where its provider is called at all, a
provider of an enabled namespace has called it on its own.  It has no influence
either: bundles of providers that agree on the enabled namespaces give the same
path or none, with the same calls in the same order.  The environment cannot be
disabled.
-/
theorem disabled_namespaces_unreachable (config : Config) (pathExists : String → Bool)
    (raw : List String) :
    config.enabled .env = true ∧
    (∀ ns, config.enabled ns = false → ∀ providers,
      ∀ event ∈ (pathOf ⟨config, providers, pathExists⟩ raw).events,
        event.asked? = some ns →
          ∃ other, config.enabled other = true ∧ providers.Does other event) ∧
    (∀ first second : Providers,
      (∀ ns, config.enabled ns = true → first.AgreeAt second ns) →
        pathOf ⟨config, first, pathExists⟩ raw = pathOf ⟨config, second, pathExists⟩ raw) := by
  refine ⟨rfl, ?_, ?_⟩
  · intro ns disabled providers event member asked
    have kept := pathOf_keeps (lenient_askingEnabled config providers)
      (asksWithin_askingEnabled ⟨config, providers, pathExists⟩) raw
    have enabledOrOwn := kept.events event member ns asked
    exact enabledOrOwn.resolve_left (by simp [disabled])
  · intro first second agree
    exact pathFrom_congr pathExists agree raw Path.empty

/-- With the directories switched off, neither an expression nor a nested reference gets there. -/
theorem disabled_directories_unreachable :
    let config : Config := { Config.default with dirs := false }
    let full := Providers.constant fun _ => some "/v"
    let bare := Providers.constant fun ns => if ns = .dir then none else some "/v"
    let raw := ["$dir: home", "$const: dir * home ? const * dir * home ? proj * (a): dir * home"]
    config.enabled .dir = false ∧
      (∀ ns, config.enabled ns = true → full.AgreeAt bare ns) ∧
      (∀ event ∈ (pathOf ⟨config, full, fun _ => false⟩ raw).events,
        event.asked? ≠ some .dir) ∧
      pathOf ⟨config, full, fun _ => false⟩ raw = pathOf ⟨config, bare, fun _ => false⟩ raw := by
  intro config full bare raw
  have disabled : config.enabled .dir = false := by
    rfl
  have agree : ∀ ns, config.enabled ns = true → full.AgreeAt bare ns := by
    intro ns enabled
    apply Providers.agreeAt_constant
    cases ns with
    | dir => cases enabled
    | env | const | val | proj => rfl
  -- Providers with constant answers do nothing on their own.
  have idle : ∀ ns event, ¬ full.Does ns event := by
    intro ns event does
    cases ns with
    | env | dir | const | val =>
        obtain ⟨ident, member⟩ := does
        cases member
    | proj =>
        obtain ⟨ident, group, member⟩ := does
        cases member
  obtain ⟨-, asking, influence⟩ := disabled_namespaces_unreachable config (fun _ => false) raw
  refine ⟨disabled, agree, ?_, influence full bare agree⟩
  intro event member asked
  obtain ⟨other, -, does⟩ := asking .dir disabled full event member asked
  exact idle other event does

end Resolver

end PathExpr

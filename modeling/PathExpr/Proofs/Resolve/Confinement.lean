import PathExpr.Proofs.Resolve.Place

/-!
# Alternatives that keep to their namespace

An alternative that is not written as a reference belongs to the namespace of
its expression.  Whether it is a reference is decided more than once, though: on
the written text, on the folded text, and in a chain of a project also on what
stands behind the last colon.  Only the first decision is about what was
written.

This module follows an alternative to the one question that it comes to, if to
any, and says exactly when that question leaves the namespace, or asks for
something that does not stand in the alternative.  Among environment variables
neither can happen, for no folded name has a small letter in it.
-/

namespace PathExpr

open PathExpr.Expr PathExpr.Text

/-! ## Providers that agree -/

/-- Both have the same provider for the namespace. -/
def Providers.AgreeAt (first second : Providers) : Namespace → Prop
  | .env => first.env = second.env
  | .dir => first.dir = second.dir
  | .const => first.const = second.const
  | .proj => first.proj = second.proj
  | .val => first.val = second.val

/-- Providers with one answer for everything in a namespace. -/
def Providers.constant (answer : Namespace → Option String) : Providers where
  env _ := return answer .env
  const _ := return answer .const
  dir _ := return answer .dir
  val _ := return answer .val
  proj _ _ := return answer .proj

theorem Providers.agreeAt_constant {first second : Namespace → Option String} {ns : Namespace}
    (same : first ns = second ns) : (constant first).AgreeAt (constant second) ns := by
  cases ns with
  | env | dir | const | val =>
      funext ident
      simp only [constant, same]
  | proj =>
      funext ident group
      simp only [constant, same]

namespace Resolver

section Asking

variable {config : Config} {pathExists : String → Bool}

/-- A question is answered by the provider of its namespace alone. -/
theorem put_congr {first second : Providers} {asked : Question}
    (same : first.AgreeAt second asked.ns) :
    put ⟨config, first, pathExists⟩ asked = put ⟨config, second, pathExists⟩ asked := by
  cases asked with
  | project group ident =>
      simp only [Question.ns, Providers.AgreeAt] at same
      simp only [put, askProject, same]
  | plain ns single ident =>
      cases ns with
      | proj => exact (single rfl).elim
      | env | dir | const | val =>
          simp only [Question.ns, Providers.AgreeAt] at same
          simp only [put, ask, same]

theorem outcome_put_constant (answer : Namespace → Option String) (asked : Question) :
    (put ⟨config, .constant answer, pathExists⟩ asked).outcome = .ok (answer asked.ns) := by
  cases asked with
  | project group ident => rfl
  | plain ns single ident =>
      cases ns with
      | proj => exact (single rfl).elim
      | env | dir | const | val => rfl

end Asking

/-- What is done depends on no provider but that of one namespace. -/
def KeepsTo (config : Config) (pathExists : String → Bool) (home : Namespace)
    (computation : Resolver → Traced (Option String)) : Prop :=
  ∀ first second : Providers, first.AgreeAt second home →
    computation ⟨config, first, pathExists⟩ = computation ⟨config, second, pathExists⟩

/-- Asking a question keeps to a namespace when the question does, and only then. -/
theorem keepsTo_answer_iff (config : Config) (pathExists : String → Bool) (home : Namespace)
    (found : Option Referral) :
    KeepsTo config pathExists home (fun resolver => resolver.answer found) ↔
      ∀ referral, found = some referral → referral.question.ns = home := by
  constructor
  · rintro keeps referral rfl
    by_cases different : referral.question.ns = home
    · exact different
    · -- Two bundles that agree at home and answer differently everywhere else.
      have agree : (Providers.constant fun _ => none).AgreeAt
          (Providers.constant fun ns => if ns = home then none else some "") home :=
        Providers.agreeAt_constant (by simp)
      have same := congrArg Traced.outcome (keeps _ _ agree)
      simp [outcome_answer, outcome_put_constant, different] at same
  · intro kept first second agree
    cases found with
    | none => rfl
    | some referral =>
        have asked := kept referral rfl
        subst asked
        simp only [answer, put_congr agree]

/-! ## What is promised -/

/--
What is promised of an alternative: unless it is written as a reference it asks
no other provider than that of its namespace, and what a reference asks for
stands in the alternative, in the case in which it was written.
-/
structure Faithful (config : Config) (pathExists : String → Bool) (place : Place)
    (alternative : String) : Prop where
  keeps : startsReference alternative = false →
    KeepsTo config pathExists place.ns fun resolver => resolver.valueAt place alternative
  verbatim : ∀ text referral, place.target? alternative = some (.reference text) →
    referral? config text = some referral →
      referral.question.ident.toList <:+: alternative.toList

theorem keepsTo_valueAt_iff (config : Config) (pathExists : String → Bool) (place : Place)
    (alternative : String) :
    KeepsTo config pathExists place.ns (fun resolver => resolver.valueAt place alternative) ↔
      ∀ text referral, place.target? alternative = some (.reference text) →
        referral? config text = some referral → referral.question.ns = place.ns := by
  have asks := keepsTo_answer_iff config pathExists place.ns (place.referral? config alternative)
  have same : KeepsTo config pathExists place.ns
      (fun resolver => resolver.valueAt place alternative) ↔
      KeepsTo config pathExists place.ns
        (fun resolver => resolver.answer (place.referral? config alternative)) := by
    simp only [KeepsTo, valueAt_eq_answer]
  rw [same, asks, Place.referral?]
  cases found : place.target? alternative with
  | none => simp
  | some target =>
      cases target with
      | question asked => simp [Target.referral?, Place.ns_of_question found]
      | reference text =>
          simp only [Option.bind_some, Target.referral?]
          constructor
          · intro home other referral same leads
            cases same
            exact home referral leads
          · intro home referral leads
            exact home text referral rfl leads

/-- The promise is kept of what is written as a reference, and otherwise as far as references go. -/
theorem faithful_iff (config : Config) (pathExists : String → Bool) (place : Place)
    (alternative : String) :
    Faithful config pathExists place alternative ↔
      (startsReference alternative = false →
        ∀ text referral, place.target? alternative = some (.reference text) →
          referral? config text = some referral →
            referral.question.ns = place.ns ∧
              referral.question.ident.toList <:+: alternative.toList) := by
  have keeping := keepsTo_valueAt_iff config pathExists place alternative
  constructor
  · rintro ⟨keeps, verbatim⟩ plain text referral found leads
    exact ⟨keeping.mp (keeps plain) text referral found leads, verbatim text referral found leads⟩
  · intro kept
    constructor
    · intro plain
      apply keeping.mpr
      intro text referral found leads
      exact (kept plain text referral found leads).1
    · intro text referral found leads
      cases plain : startsReference alternative with
      | false => exact (kept plain text referral found leads).2
      | true =>
          rw [Place.target?_of_reference plain] at found
          cases found
          exact infix_referral? leads

/-- Among environment variables the promise is kept. -/
theorem faithful_of_env (config : Config) (pathExists : String → Bool) {place : Place}
    (env : place.ns = .env) (alternative : String) :
    Faithful config pathExists place alternative := by
  apply (faithful_iff config pathExists place alternative).mpr
  intro plain text referral found
  exact (Place.target?_env env plain text found).elim

/--
An expression is resolved by the values of its alternatives in their places, and
the value of an alternative is the answer to the one question it comes to.  What
is promised holds of an alternative that is not written as a reference exactly
when the text it is taken for leads, as far as it is a reference, to the same
namespace and to an identifier that stands in the alternative.  It holds of
everything written as a reference, and of all alternatives among environment
variables.
-/
theorem alternatives_faithful_iff (config : Config) (pathExists : String → Bool) :
    (∀ place alternative, Faithful config pathExists place alternative ↔
      (startsReference alternative = false →
        ∀ text referral, place.target? alternative = some (.reference text) →
          referral? config text = some referral →
            referral.question.ns = place.ns ∧
              referral.question.ident.toList <:+: alternative.toList)) ∧
    (∀ place, place.ns = .env →
      ∀ alternative, Faithful config pathExists place alternative) ∧
    (∀ providers place alternative,
      valueAt ⟨config, providers, pathExists⟩ place alternative =
        answer ⟨config, providers, pathExists⟩ (place.referral? config alternative)) ∧
    (∀ providers ns (single : ns ≠ .proj) tag remainder,
      evaluate ⟨config, providers, pathExists⟩ ns tag remainder =
        chainValue pathExists
          (valueAt ⟨config, providers, pathExists⟩ (.plain ns single)) remainder) ∧
    (∀ providers tag remainder,
      evaluate ⟨config, providers, pathExists⟩ .proj tag remainder =
        match questionMarkOf? remainder with
        | none => valueAt ⟨config, providers, pathExists⟩ (.alone tag) remainder
        | some separator =>
            Flow.value <$> select pathExists none
              (projectOffers ⟨config, providers, pathExists⟩ tag
                (trimmedPieces separator remainder))) := by
  refine ⟨faithful_iff config pathExists, ?_, ?_, ?_, ?_⟩
  · intro place env alternative
    exact faithful_of_env config pathExists env alternative
  · intro providers place alternative
    exact valueAt_eq_answer ⟨config, providers, pathExists⟩ place alternative
  · intro providers ns single tag remainder
    exact evaluate_plain ⟨config, providers, pathExists⟩ single tag remainder
  · intro providers tag remainder
    exact evaluate_project ⟨config, providers, pathExists⟩ tag remainder

/-- A tag in capitals is no reference, but becomes one, and its identifier loses its capitals. -/
theorem capital_tag_not_faithful :
    startsReference "ENV * HOME" = false ∧
      evaluate ⟨.default, .constant fun _ => none, fun _ => false⟩ .dir "$dir" "ENV * HOME" =
        ⟨[.lookup .env "home"], .ok none⟩ ∧
      ¬ Faithful .default (fun _ => false) (.plain .dir (by decide)) "ENV * HOME" := by
  have plain : startsReference "ENV * HOME" = false := by
    decide
  have unmarked : questionMarkOf? "ENV * HOME" = none := by
    decide
  have found : (Place.plain .dir (by decide)).target? "ENV * HOME" =
      some (.reference "env * home") := by
    decide
  have leads : referral? .default "env * home" =
      some ⟨["env * home"], .plain .env (by decide) "home"⟩ :=
    referral?_of_question (by decide)
  refine ⟨plain, ?_, ?_⟩
  · rw [evaluate_plain _ (by decide), chainValue, unmarked]
    simp only
    rw [valueAt_eq_answer, Place.referral?, found, Option.bind_some, Target.referral?, leads]
    rfl
  · intro faithful
    have kept := (faithful_iff _ _ _ _).mp faithful plain _ _ found leads
    exact absurd kept.1 (by decide)

end Resolver

end PathExpr

import PathExpr.Proofs.Path.Joined
import PathExpr.Proofs.Resolve.Conduct
import PathExpr.Proofs.Resolve.Confinement

/-!
# Assembly of a path

The elements of a raw sequence are resolved from the left, and their values are
joined to a path.  The first expression without a value ends this: the sequence
has no path then, and nothing behind the expression is looked at.

What a sequence resolves to can therefore be put together from its parts.  Two
sequences in a row have the path of the first joined with that of the second,
and do what the first does and then what the second does, unless the first has
no path.  Nor does anything depend on how the values were come by: the path is
what the values make up.
-/

namespace PathExpr

open PathExpr.Expr PathExpr.Text
open Traced

/-- The provider of the namespace answers everything it is asked without a fault. -/
def Providers.Answers (providers : Providers) : Namespace → Prop
  | .env => ∀ ident, ∃ value, (providers.env ident).outcome = .ok value
  | .dir => ∀ ident, ∃ value, (providers.dir ident).outcome = .ok value
  | .const => ∀ ident, ∃ value, (providers.const ident).outcome = .ok value
  | .val => ∀ ident, ∃ value, (providers.val ident).outcome = .ok value
  | .proj => ∀ ident group, ∃ value, (providers.proj ident group).outcome = .ok value

namespace Resolver

variable (resolver : Resolver)

/-! ## One element -/

/-- The element resolves to a value. -/
def HasValue (s value : String) : Prop :=
  ∃ element, (resolver.resolveElement s).outcome = .ok element ∧ element.value? = some value

/-- The text that an element adds to the path, with the remarks on it. -/
def contribution (s : String) : Traced (Option String) := do
  match ← resolver.resolveElement s with
  | .expression none =>
    Traced.remark (.unresolved s)
    return none
  | .expression (some text) => return some text
  | .literal text =>
    Traced.remark (.literal text)
    return some text

theorem hasValue_iff {s value : String} :
    resolver.HasValue s value ↔ (resolver.contribution s).outcome = .ok (some value) := by
  unfold HasValue contribution
  cases ended : (resolver.resolveElement s).outcome with
  | error fault => simp [bind_of_error ended]
  | ok element =>
      rcases element with text | ⟨_ | text⟩ <;>
        simp [bind_of_ok ended, remark, emit, Element.value?]

theorem pathFrom_cons (path : Path) (s : String) (rest : List String) :
    resolver.pathFrom path (s :: rest) = (do
      match ← resolver.contribution s with
      | none => return none
      | some text => resolver.pathFrom (path.child text) rest) := by
  rw [pathFrom, contribution, LawfulMonad.bind_assoc]
  apply bind_congr
  intro element
  cases element with
  | literal text => simp
  | expression value => cases value <;> simp

/-! ## Sequences in a row -/

/-- Where a path starts has no influence on what is done, and comes first in the path. -/
theorem pathFrom_append_path (p q : Path) (raw : List String) :
    resolver.pathFrom (p ++ q) raw = Option.map (p ++ ·) <$> resolver.pathFrom q raw := by
  induction raw generalizing q with
  | nil => simp [pathFrom]
  | cons s rest ih =>
      rw [pathFrom_cons, pathFrom_cons, map_bind]
      apply bind_congr
      intro value
      cases value with
      | none => simp
      | some text => simpa only [Path.append_child] using ih (q.child text)

theorem pathFrom_append (path : Path) (xs ys : List String) :
    resolver.pathFrom path (xs ++ ys) = (do
      match ← resolver.pathFrom path xs with
      | none => return none
      | some found => resolver.pathFrom found ys) := by
  induction xs generalizing path with
  | nil => simp [pathFrom]
  | cons s rest ih =>
      rw [List.cons_append, pathFrom_cons, pathFrom_cons, LawfulMonad.bind_assoc]
      apply bind_congr
      intro value
      cases value with
      | none => simp
      | some text => exact ih (path.child text)

/-- The second of two sequences starts afresh, and only when the first has a path. -/
theorem pathOf_append (xs ys : List String) :
    resolver.pathOf (xs ++ ys) = (do
      match ← resolver.pathOf xs with
      | none => return none
      | some path => Option.map (path ++ ·) <$> resolver.pathOf ys) := by
  rw [pathOf, pathFrom_append]
  apply bind_congr
  intro found
  cases found with
  | none => rfl
  | some path =>
      have afresh := resolver.pathFrom_append_path path Path.empty ys
      rwa [Path.append_empty] at afresh

/-! ## The path of the values -/

/-- A sequence has a path when all its elements have values, and then the path of these values. -/
theorem outcome_pathFrom_iff {raw : List String} {start path : Path} :
    (resolver.pathFrom start raw).outcome = .ok (some path) ↔
      ∃ values, List.Forall₂ resolver.HasValue raw values ∧ path = start.children values := by
  induction raw generalizing start with
  | nil =>
      constructor
      · intro ended
        cases ended
        exact ⟨[], .nil, rfl⟩
      · rintro ⟨values, matching, rfl⟩
        cases matching
        rfl
  | cons s rest ih =>
      rw [pathFrom_cons, outcome_bind]
      constructor
      · intro ended
        cases valued : (resolver.contribution s).outcome with
        | error fault =>
            rw [valued] at ended
            cases ended
        | ok value =>
            rw [valued] at ended
            cases value with
            | none => cases ended
            | some text =>
                obtain ⟨values, matching, rfl⟩ := ih.mp ended
                exact ⟨text :: values, .cons (resolver.hasValue_iff.mpr valued) matching, rfl⟩
      · rintro ⟨values, matching, rfl⟩
        cases matching with
        | cons here behind =>
            rw [resolver.hasValue_iff.mp here]
            exact ih.mpr ⟨_, behind, rfl⟩

/-! ## Without faults -/

/-- Everything is allowed but a fault. -/
def faultless : Conduct where
  event _ := True
  fault _ := False

variable {resolver}

theorem exists_answer (asked : Question)
    (answers : resolver.providers.Answers asked.ns) :
    ∃ value, (resolver.put asked).outcome = .ok value := by
  cases asked with
  | project group ident =>
      obtain ⟨value, given⟩ := answers ident group
      exact ⟨value, by rw [put, askProject, outcome_bind]; exact given⟩
  | plain ns single ident =>
      cases ns with
      | proj => exact (single rfl).elim
      | env | dir | const | val =>
          obtain ⟨value, given⟩ := answers ident
          exact ⟨value, by rw [put, ask, outcome_bind]; exact given⟩

/-- When the providers of the enabled namespaces answer, so does every resolution. -/
theorem exists_pathOf
    (answers : ∀ ns, resolver.config.enabled ns = true → resolver.providers.Answers ns)
    (raw : List String) : ∃ path, (resolver.pathOf raw).outcome = .ok path := by
  -- Resolution has no faults of its own, so it ends without one.
  have lenient : faultless.Lenient := ⟨fun _ => trivial, fun _ => trivial⟩
  have within : resolver.AsksWithin faultless := by
    intro asked enabled
    obtain ⟨value, given⟩ := exists_answer asked (answers asked.ns enabled)
    refine ⟨fun _ _ => trivial, ?_⟩
    intro fault failed
    rw [given] at failed
    cases failed
  exact (pathOf_keeps lenient within raw).exists_value fun _ impossible => impossible

/--
Where the providers answer, resolving takes sequences in a row to paths joined:
the empty sequence to the empty path, and two sequences to the path of the first
joined with that of the second, or to none when one of them has none.  What is
done is what the first does and, if it has a path, then what the second does.
A sequence has a path exactly when every element of it has a value, and then the
one that the values make up.
-/
theorem pathOf_homomorphic
    (answers : ∀ ns, resolver.config.enabled ns = true → resolver.providers.Answers ns) :
    resolver.pathOf [] = pure (some Path.empty) ∧
    (∀ path : Path, Path.empty ++ path = path ∧ path ++ Path.empty = path) ∧
    (∀ xs ys, ∃ first second,
      (resolver.pathOf xs).outcome = .ok first ∧ (resolver.pathOf ys).outcome = .ok second ∧
      (resolver.pathOf (xs ++ ys)).outcome = .ok (first.bind fun p => second.map fun q => p ++ q) ∧
      (resolver.pathOf (xs ++ ys)).events =
        (resolver.pathOf xs).events ++ if first.isSome then (resolver.pathOf ys).events else []) ∧
    (∀ raw path, (resolver.pathOf raw).outcome = .ok (some path) ↔
      ∃ values, List.Forall₂ resolver.HasValue raw values ∧ Path.MadeOf values path) := by
  refine ⟨rfl, fun path => ⟨path.empty_append, path.append_empty⟩, ?_, ?_⟩
  · intro xs ys
    obtain ⟨first, before⟩ := exists_pathOf answers xs
    obtain ⟨second, after⟩ := exists_pathOf answers ys
    refine ⟨first, second, before, after, ?_⟩
    rw [pathOf_append, bind_of_ok before]
    cases first with
    | none => exact ⟨rfl, rfl⟩
    | some path =>
        have joined : Option.map (path ++ ·) <$> resolver.pathOf ys =
            ⟨(resolver.pathOf ys).events, .ok (second.map (path ++ ·))⟩ := by
          rw [← bind_pure_comp, bind_of_ok after]
          simp
        exact ⟨congrArg Traced.outcome joined, congrArg (_ ++ Traced.events ·) joined⟩
  · intro raw path
    rw [pathOf, outcome_pathFrom_iff]
    simp only [Path.madeOf_iff]

theorem answers_constant (answer : Namespace → Option String) (ns : Namespace) :
    (Providers.constant answer).Answers ns := by
  cases ns with
  | env | dir | const | val => exact fun ident => ⟨_, rfl⟩
  | proj => exact fun ident group => ⟨_, rfl⟩

/-- A directory with a root takes the place of what stands before it, and keeps its two slashes. -/
theorem pathOf_homomorphic_behind_root :
    let resolver : Resolver :=
      ⟨Config.default, .constant fun _ => some "//srv/./x", fun _ => true⟩
    (∀ ns, resolver.config.enabled ns = true → resolver.providers.Answers ns) ∧
      (resolver.pathOf (["a", "$dir: home"] ++ ["../b/"])).outcome =
        .ok (some ⟨.double, ["srv", "x", "..", "b"]⟩) ∧
      (resolver.pathOf (["a", "$dir: home"] ++ ["../b/"])).events =
        (resolver.pathOf ["a", "$dir: home"]).events ++ (resolver.pathOf ["../b/"]).events := by
  intro resolver
  have answers : ∀ ns, resolver.config.enabled ns = true → resolver.providers.Answers ns :=
    fun ns _ => answers_constant (fun _ => some "//srv/./x") ns
  obtain ⟨-, -, joined, closed⟩ := pathOf_homomorphic answers
  have directory : resolver.HasValue "$dir: home" "//srv/./x" :=
    ⟨.expression (some "//srv/./x"), rfl, rfl⟩
  have before : resolver.HasValue "a" "a" := ⟨.literal "a", rfl, rfl⟩
  have behind : resolver.HasValue "../b/" "../b/" := ⟨.literal "../b/", rfl, rfl⟩
  have made (after : List String)
      (plain : ∀ value ∈ after, (Path.ofText value).isAbsolute = false) :
      Path.MadeOf (["a"] ++ "//srv/./x" :: after)
        ⟨.double, ("//srv/./x" :: after).flatMap Path.components⟩ :=
    .absolute rfl plain
  obtain ⟨first, second, resolved, -, -, events⟩ := joined ["a", "$dir: home"] ["../b/"]
  have path := (closed ["a", "$dir: home"] _).mpr
    ⟨_, .cons before (.cons directory .nil), made [] (by decide)⟩
  obtain rfl := Except.ok.inj (resolved.symm.trans path)
  refine ⟨answers, (closed _ _).mpr ⟨_, ?_, made ["../b/"] (by decide)⟩, events⟩
  exact .cons before (.cons directory (.cons behind .nil))

end Resolver

end PathExpr

import PathExpr.Proofs.Chain.Folding
import PathExpr.Resolver

/-!
# Elements of a raw sequence

An element is an expression when the trimmed text before its first colon is the
tag of an enabled namespace; any other element stands for itself.

The value of an expression can be read off its alternatives as they were
written.  Resolution folds the remainder as a whole and looks at the folded
chain, but that comes to the same as one pass over the written alternatives:
each is folded on its own, or followed where it is a reference.
-/

namespace PathExpr

open PathExpr.Expr PathExpr.Text

/-! ## Tags -/

theorem Namespace.ofTag?_tag {ns : Namespace} (plain : ns ≠ .proj) :
    Namespace.ofTag? ns.tag = some ns := by
  cases ns with
  | proj => exact (plain rfl).elim
  | env | dir | const | val => decide

/-- The namespace of a tag: a project tag goes on, the others stand alone. -/
theorem Namespace.ofTag?_eq_some_iff {tag : String} {ns : Namespace} :
    Namespace.ofTag? tag = some ns ↔
      (ns ≠ .proj ∧ tag = ns.tag) ∨
        (ns = .proj ∧ startsWith Namespace.proj.tag tag = true) := by
  constructor
  · intro found
    unfold Namespace.ofTag? at found
    split at found
    · next other hit =>
      obtain rfl := Option.some.inj found
      have same : tag = other.tag := by
        simpa using List.find?_some hit
      have plain : other ≠ .proj := by
        rintro rfl
        simpa using List.mem_of_find?_eq_some hit
      exact Or.inl ⟨plain, same⟩
    · split at found
      · next starts =>
        exact Or.inr ⟨(Option.some.inj found).symm, starts⟩
      · cases found
  · rintro (⟨plain, rfl⟩ | ⟨rfl, starts⟩)
    · exact Namespace.ofTag?_tag plain
    · unfold Namespace.ofTag?
      split
      · next other hit =>
        have same : tag = other.tag := by
          simpa using List.find?_some hit
        have listed := List.mem_of_find?_eq_some hit
        -- None of the other tags begins with the project tag.
        subst same
        revert starts listed
        cases other <;> decide
      · simp [starts]

namespace Resolver

variable (resolver : Resolver)

/-! ## The value of an expression -/

/--
What an alternative of a namespace is asked for, as it was written: a reference
is followed in its own case, any other text is folded first, and may turn out
to be a reference then.
-/
def written (ns : Namespace) (alternative : String) : Traced (Option String) :=
  if startsReference alternative then resolver.follow alternative
  else if startsReference (foldFor ns alternative) then
    resolver.follow (foldFor ns alternative)
  else resolver.ask ns (foldFor ns alternative)

theorem lookup_foldPiece (ns : Namespace) (alternative : String) :
    resolver.lookup ns (foldPiece (foldFor ns) alternative) =
      resolver.written ns alternative := by
  cases reference : startsReference alternative with
  | true => simp [lookup, foldPiece, written, reference]
  | false => simp [lookup, foldPiece, written, reference]

/-- An expression has the value of the chain of its written alternatives. -/
theorem evaluate_eq_chainValue {ns : Namespace} (plain : ns ≠ .proj) (tag remainder : String) :
    resolver.evaluate ns tag remainder =
      chainValue resolver.pathExists (resolver.written ns) remainder := by
  have folded := chainValue_foldIdents (transparent_foldFor ns) resolver.pathExists
    (resolver.lookup ns) remainder
  simp only [lookup_foldPiece] at folded
  rw [← folded]
  cases ns with
  | proj => exact (plain rfl).elim
  | env | dir | const | val => rfl

/-! ## Elements -/

theorem resolveElement_of_recognized {s : String} {ns : Namespace} {tag remainder : String}
    (parts : chunks (trim s) = [tag, remainder]) (named : Namespace.ofTag? tag = some ns)
    (enabled : resolver.config.enabled ns = true) :
    resolver.resolveElement s = do
      let value ← resolver.evaluate ns tag remainder
      Traced.remark (.resolved (trim s) value)
      return .expression value := by
  simp [resolveElement, recognize, parts, named, Option.filter, enabled]

theorem resolveElement_of_unnamed {s : String} {tag remainder : String}
    (parts : chunks (trim s) = [tag, remainder])
    (unnamed : ∀ ns, Namespace.ofTag? tag = some ns → resolver.config.enabled ns = false) :
    resolver.resolveElement s = return .literal (trim s) := by
  cases named : Namespace.ofTag? tag with
  | none => simp [resolveElement, recognize, parts, named]
  | some ns => simp [resolveElement, recognize, parts, named, Option.filter, unnamed ns named]

theorem resolveElement_of_no_chunks {s : String} (none : chunks (trim s) = []) :
    resolver.resolveElement s = return .literal (trim s) := by
  simp [resolveElement, recognize, none]

/--
What an element means.  Without a colon it is its own trimmed text.  Otherwise
the trimmed text before the first colon of either form decides: when it is the
tag of an enabled namespace, the element has the value of the chain of the
alternatives written behind the colon; when it begins with the project tag, and
projects are enabled, it is an expression of a project; else it is its own
trimmed text.
-/
theorem resolveElement_meaning (s : String) :
    ((∀ c ∈ (trim s).toList, isColon c = false) →
      resolver.resolveElement s = return .literal (trim s)) ∧
    ∀ before mark after, (trim s).toList = before ++ mark :: after → isColon mark = true →
      (∀ c ∈ before, isColon c = false) →
        let tag := trim (String.ofList before)
        let remainder := trim (String.ofList after)
        (∀ ns, ns ≠ .proj → tag = ns.tag → resolver.config.enabled ns = true →
          resolver.resolveElement s = do
            let value ← chainValue resolver.pathExists (resolver.written ns) remainder
            Traced.remark (.resolved (trim s) value)
            return .expression value) ∧
        (startsWith Namespace.proj.tag tag = true → resolver.config.enabled .proj = true →
          resolver.resolveElement s = do
            let value ← resolver.evaluate .proj tag remainder
            Traced.remark (.resolved (trim s) value)
            return .expression value) ∧
        ((∀ ns, ns ≠ .proj → tag = ns.tag → resolver.config.enabled ns = false) →
          (startsWith Namespace.proj.tag tag = true → resolver.config.enabled .proj = false) →
          resolver.resolveElement s = return .literal (trim s)) := by
  constructor
  · intro plain
    exact resolver.resolveElement_of_no_chunks (chunks_of_no_colon plain)
  · intro before mark after whole isMark plain tag remainder
    have parts : chunks (trim s) = [tag, remainder] := chunks_of_append whole isMark plain
    refine ⟨?_, ?_, ?_⟩
    · intro ns other same enabled
      have named : Namespace.ofTag? tag = some ns :=
        Namespace.ofTag?_eq_some_iff.mpr (Or.inl ⟨other, same⟩)
      rw [resolver.resolveElement_of_recognized parts named enabled,
        resolver.evaluate_eq_chainValue other]
    · intro starts enabled
      have named : Namespace.ofTag? tag = some .proj :=
        Namespace.ofTag?_eq_some_iff.mpr (Or.inr ⟨rfl, starts⟩)
      exact resolver.resolveElement_of_recognized parts named enabled
    · intro disabled disabledProjects
      refine resolver.resolveElement_of_unnamed parts fun ns named => ?_
      rcases Namespace.ofTag?_eq_some_iff.mp named with ⟨other, same⟩ | ⟨rfl, starts⟩
      · exact disabled ns other same
      · exact disabledProjects starts

/-- The first colon decides, in either form, and another one behind it is a part of the value. -/
theorem resolveElement_meaning_of_both_colons :
    let answer : Lookup := fun _ => return some "/x"
    let resolver : Resolver :=
      ⟨{ Config.default with project := false },
        ⟨answer, answer, answer, answer, fun _ _ => return some "/x"⟩, fun _ => false⟩
    resolver.resolveElement " $dir ：A:b?? C" = (do
        let value ← chainValue resolver.pathExists (resolver.written .dir) "A:b?? C"
        Traced.remark (.resolved "$dir ：A:b?? C" value)
        return .expression value) ∧
      (resolver.resolveElement " $dir ：A:b?? C").calls =
        [.lookup .dir "a:b", .probe "/x", .lookup .dir "c"] ∧
      resolver.resolveElement "$proj(a): b" = return .literal "$proj(a): b" := by
  intro answer resolver
  refine ⟨?_, by decide +kernel, ?_⟩
  · obtain ⟨-, marked⟩ := resolver.resolveElement_meaning " $dir ：A:b?? C"
    obtain ⟨valued, -⟩ := marked ['$', 'd', 'i', 'r', ' '] '：' ['A', ':', 'b', '?', '?', ' ', 'C']
      (by rfl) (by rfl) (by simp [isColon])
    exact valued .dir (by decide) (by rfl) (by rfl)
  · -- Projects are disabled, so that their tag is a text like any other.
    obtain ⟨-, marked⟩ := resolver.resolveElement_meaning "$proj(a): b"
    obtain ⟨-, -, literal⟩ := marked ['$', 'p', 'r', 'o', 'j', '(', 'a', ')'] ':' [' ', 'b']
      (by rfl) (by rfl) (by simp [isColon])
    refine literal ?_ fun _ => rfl
    intro ns _ same
    cases ns <;> revert same <;> decide

end Resolver

end PathExpr

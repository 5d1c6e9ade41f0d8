import PathExpr.PathSpec
import PathExpr.Proofs.Path.Normal
import PathExpr.Proofs.Resolve.Assembly

/-!
# Resolving a path that is shown

The path of a sequence has the components that reading leaves, so it is read back
from its text.  Taken for an element of its own, this text is trimmed first, and
where no enabled namespace is recognized in it, it stands for itself.

Reading never lengthens a text: a path is as long as what it was read from, or
shorter.  So no text that is shorter than the text of a path is read as this path.
A path that is shown is therefore resolved to itself exactly if there is nothing to
trim.
-/

namespace PathExpr

open PathExpr.Expr PathExpr.Text

namespace Path

/-- What is left of the text of a path by trimming is read as this path only if it is all. -/
theorem ofText_trim_text_iff {p : Path} (normal : p.IsNormal) :
    ofText (trim p.text) = p ↔ trim p.text = p.text := by
  constructor
  · intro again
    have filled : trim p.text ≠ "" := by
      intro empty
      rw [empty] at again
      subst again
      revert empty
      decide
    have bound := length_text_ofText_le filled
    rw [again, ← String.length_toList, ← String.length_toList] at bound
    exact String.toList_inj.mp ((infix_trim p.text).eq_of_length_le bound)
  · intro trimmed
    rw [trimmed, ofText_text normal]

end Path

/-! ## Resolving what is shown -/

namespace Resolver

variable (resolver : Resolver)

theorem resolveElement_of_unrecognized {s : String}
    (literal : (resolver.recognize (trim s)).1 = none) :
    resolver.resolveElement s = return .literal (trim s) := by
  unfold resolveElement
  dsimp only
  split
  · next recognized =>
    rw [recognized] at literal
    cases literal
  · rfl

/-- An element that stands for itself gives the path that its trimmed text is read as. -/
theorem pathOf_of_unrecognized {s : String} (literal : (resolver.recognize (trim s)).1 = none) :
    resolver.pathOf [s] = ⟨[.note (.literal (trim s))], .ok (some (Path.ofText (trim s)))⟩ := by
  rw [pathOf, pathFrom, resolver.resolveElement_of_unrecognized literal, Traced.pure_bind]
  simp only [Traced.bind_of_ok (rfl : (Traced.remark _).outcome = .ok ()), pathFrom, Path.child,
    Path.empty_append, Traced.events_pure, Traced.outcome_pure, List.append_nil]
  rfl

theorem isNormal_of_pathOf {raw : List String} {path : Path}
    (resolved : (resolver.pathOf raw).outcome = .ok (some path)) : path.IsNormal := by
  obtain ⟨values, -, rfl⟩ := resolver.outcome_pathFrom_iff.mp resolved
  exact Path.IsNormal.children (fun part member => by cases member) values

/--
The text of a path that a sequence resolves to, as the only element and in no enabled
namespace, is resolved without a call: it is remarked on, trimmed, and nothing else is
done.  This gives the path again exactly if there is nothing to trim.  Then resolving
leaves a specification as it is whose raw sequence is the path that it shows.
-/
theorem pathOf_display {raw : List String} {path : Path}
    (resolved : (resolver.pathOf raw).outcome = .ok (some path))
    (literal : (resolver.recognize (trim path.text)).1 = none) :
    (resolver.pathOf [path.text]).calls = [] ∧
    (resolver.pathOf [path.text]).notes = [.literal (trim path.text)] ∧
    ((resolver.pathOf [path.text]).outcome = .ok (some path) ↔ trim path.text = path.text) ∧
    ∀ (world : World) (spec : PathSpec), spec.resolver world = resolver → spec.path = some path →
      spec.raw = [spec.display] →
        ((spec.resolve world).outcome = .ok spec ↔ trim path.text = path.text) := by
  have again := resolver.pathOf_of_unrecognized literal
  have same := Path.ofText_trim_text_iff (resolver.isNormal_of_pathOf resolved)
  refine ⟨?_, ?_, ?_, ?_⟩
  · rw [again]
    rfl
  · rw [again]
    rfl
  · rw [again, ← same]
    simp
  · rintro world spec rfl found shown
    have display : spec.display = path.text := by
      rw [PathSpec.display, found]
    have ended : (spec.resolve world).outcome =
        .ok { spec with path := some (Path.ofText (trim path.text)) } := by
      rw [PathSpec.resolve, shown, display, again]
      rfl
    rw [ended, ← same]
    obtain ⟨_, _, _, _⟩ := spec
    subst found
    simp

/--
The empty path, both roots, a path that leads up, and a directory with a root behind other
elements are resolved again from what they are shown as.
-/
theorem pathOf_display_of_shapes :
    let resolver : Resolver :=
      ⟨Config.default, .constant fun _ => some "//srv/./x", fun _ => true⟩
    ∀ shape ∈ [([""], "."), (["a", "///"], "/"), (["//", "."], "//"),
        (["..", "a//./.."], "../a/.."), (["a", "$dir: home", "../b/"], "//srv/x/../b")],
      ∃ path : Path,
      (resolver.pathOf shape.1).outcome = .ok (some path) ∧ path.text = shape.2 ∧
        (resolver.recognize (trim shape.2)).1 = none ∧
        (resolver.pathOf [shape.2]).calls = [] ∧
        (resolver.pathOf [shape.2]).outcome = .ok (some path) := by
  intro resolver
  have again : ∀ {raw : List String} {path : Path} {text : String},
      (resolver.pathOf raw).outcome = .ok (some path) → path.text = text →
      (resolver.recognize (trim text)).1 = none → trim text = text →
        ∃ path : Path, (resolver.pathOf raw).outcome = .ok (some path) ∧ path.text = text ∧
          (resolver.recognize (trim text)).1 = none ∧ (resolver.pathOf [text]).calls = [] ∧
          (resolver.pathOf [text]).outcome = .ok (some path) := by
    rintro raw path _ resolved rfl literal trimmed
    obtain ⟨quiet, -, same, -⟩ := resolver.pathOf_display resolved literal
    exact ⟨path, resolved, rfl, literal, quiet, same.mpr trimmed⟩
  simp only [List.forall_mem_cons]
  refine ⟨?_, ?_, ?_, ?_, ?_, nofun⟩
  · exact @again _ Path.empty _ rfl rfl (by decide) (by decide)
  · exact @again _ ⟨.single, []⟩ _ rfl rfl (by decide) (by decide)
  · exact @again _ ⟨.double, []⟩ _ rfl rfl (by decide) (by decide)
  · exact @again _ ⟨.relative, ["..", "a", ".."]⟩ _ rfl rfl (by decide) (by decide)
  · exact @again _ ⟨.double, ["srv", "x", "..", "b"]⟩ _ rfl rfl (by decide) (by decide)

end Resolver

end PathExpr

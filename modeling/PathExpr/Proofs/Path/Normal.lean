import PathExpr.Proofs.Path.Joined
import PathExpr.Proofs.Text.Marks

/-!
# Components of paths

Reading a text leaves components that are not empty, are no single dot and have no
slash in them.  Joining keeps this, and a path with such components is read back
from its text.

A component that is read stands in the text, so that a text without two dots in a
row has no component that leads up.  Reading never lengthens a text: a path is as long
as what it was read from, or shorter.
-/

namespace PathExpr

open PathExpr.Text

namespace Path

/-- The components are as reading leaves them. -/
def IsNormal (p : Path) : Prop :=
  ∀ part ∈ p.parts, isComponent part = true ∧ '/' ∉ part.toList

/-- The path has the root of the other one, all its components, and more that do not lead up. -/
structure IsBelow (path base : Path) : Prop where
  root : path.root = base.root
  parts : ∃ more, more ≠ [] ∧ path.parts = base.parts ++ more ∧ ".." ∉ more

/-! ## What is read -/

theorem isNormal_ofText (s : String) : (ofText s).IsNormal := by
  intro part member
  obtain ⟨piece, component⟩ := List.mem_filter.mp member
  exact ⟨component, @not_mem_of_mem_split '/' _ _ piece⟩

theorem IsNormal.append {p q : Path} (normal : p.IsNormal) (normalBelow : q.IsNormal) :
    (p ++ q).IsNormal := by
  rw [append_def]
  split
  · intro part member
    rcases List.mem_append.mp member with above | below
    · exact normal part above
    · exact normalBelow part below
  · exact normalBelow

theorem IsNormal.children {p : Path} (normal : p.IsNormal) (names : List String) :
    (p.children names).IsNormal := by
  induction names generalizing p with
  | nil => exact normal
  | cons name rest ih => exact ih (normal.append (isNormal_ofText name))

theorem infix_intercalate_of_mem {separator piece : List Char} {pieces : List (List Char)}
    (member : piece ∈ pieces) : piece <:+: separator.intercalate pieces := by
  induction pieces with
  | nil => cases member
  | cons first rest ih =>
      cases rest with
      | nil => simp_all
      | cons second others =>
          rw [List.intercalate_cons_cons]
          rcases List.mem_cons.mp member with rfl | behind
          · exact ⟨[], separator ++ separator.intercalate (second :: others), by simp⟩
          · exact (ih behind).trans (List.suffix_append _ _).isInfix

/-- A component that is read stands in the text. -/
theorem infix_of_mem_components {s part : String} (member : part ∈ components s) :
    part.toList <:+: s.toList := by
  obtain ⟨piece, -⟩ := List.mem_filter.mp member
  rw [← @join_split "/" (by decide) s, toList_join]
  exact infix_intercalate_of_mem (List.mem_map_of_mem piece)

/-! ## Reading what is written -/

/-- How a text begins decides about its root, and about the root with slashes in front. -/
theorem ofChars_of_head {cs : List Char} (bare : cs.head? ≠ some '/') :
    Root.ofChars cs = .relative ∧ Root.ofChars ('/' :: cs) = .single ∧
      Root.ofChars ('/' :: '/' :: cs) = .double := by
  cases cs with
  | nil => exact ⟨rfl, rfl, rfl⟩
  | cons c rest =>
      have different : c ≠ '/' := by
        simpa using bare
      refine ⟨?_, ?_, ?_⟩ <;> unfold Root.ofChars <;> grind

/-- Exactly the texts that begin with a slash have a root. -/
theorem isAbsolute_ofText_iff {s : String} :
    (ofText s).isAbsolute = true ↔ s.toList.head? = some '/' := by
  by_cases begins : s.toList.head? = some '/'
  · obtain ⟨rest, whole⟩ := List.head?_eq_some_iff.mp begins
    have rooted : Root.ofChars ('/' :: rest) ≠ .relative := by
      unfold Root.ofChars
      split <;> simp_all
    rw [← whole] at rooted
    simpa [isAbsolute, ofText, begins] using rooted
  · have relative : (ofText s).isAbsolute = false :=
      isAbsolute_eq_false_iff.mpr (ofChars_of_head begins).1
    simp [relative, begins]

/-- A slash in front makes an empty piece. -/
theorem split_slash (s : String) : split "/" ("/" ++ s) = "" :: split "/" s := by
  have divided := split_singleton '/' ("/" ++ s)
  have written : ("/" ++ s).toList = [] ++ '/' :: s.toList := by
    simp
  rw [written, List.splitOn_append_cons_self, List.map_append, ← split_singleton] at divided
  exact divided

theorem components_slash (s : String) : components ("/" ++ s) = components s := by
  rw [components, split_slash]
  rfl

theorem IsNormal.pieces {p : Path} (normal : p.IsNormal) (filled : p.parts ≠ []) :
    split "/" (join "/" p.parts) = p.parts :=
  @split_join '/' _ filled fun part member => (normal part member).2

theorem IsNormal.components_text {p : Path} (normal : p.IsNormal) :
    components (join "/" p.parts) = p.parts := by
  by_cases empty : p.parts = []
  · rw [empty]
    rfl
  · rw [components, normal.pieces empty,
      List.filter_eq_self.mpr fun part member => (normal part member).1]

/-- The components alone are written without a slash in front. -/
theorem IsNormal.head?_text {p : Path} (normal : p.IsNormal) :
    (join "/" p.parts).toList.head? ≠ some '/' := by
  intro begins
  obtain ⟨rest, written⟩ := List.head?_eq_some_iff.mp begins
  have filled : p.parts ≠ [] := by
    intro empty
    rw [empty] at begins
    cases begins
  have whole : join "/" p.parts = "/" ++ String.ofList rest := by
    rw [← String.toList_inj, written]
    simp
  have pieces := normal.pieces filled
  rw [whole, split_slash] at pieces
  have component := (normal "" (by simp [← pieces])).1
  cases component

/-- A path is read back from its text. -/
theorem ofText_text {p : Path} (normal : p.IsNormal) : ofText p.text = p := by
  have body := normal.components_text
  obtain ⟨relative, single, double⟩ := ofChars_of_head normal.head?_text
  obtain ⟨root, parts⟩ := p
  have read : ∀ s, ofText s = ⟨Root.ofChars s.toList, components s⟩ := fun s => rfl
  cases root with
  | relative =>
      cases parts with
      | nil => rfl
      | cons first rest =>
          have written : text ⟨.relative, first :: rest⟩ = join "/" (first :: rest) :=
            String.empty_append
          rw [written, read, relative, body]
  | single =>
      have written : text ⟨.single, parts⟩ = "/" ++ join "/" parts := rfl
      rw [written, read, components_slash, body]
      simpa using single
  | double =>
      have written : text ⟨.double, parts⟩ = "/" ++ ("/" ++ join "/" parts) := by
        rw [← String.append_assoc]
        rfl
      rw [written, read, components_slash, components_slash, body]
      simpa using double

/-! ## The length of what is read -/

/-- Pieces that are left out make what is joined shorter. -/
theorem length_join_le_of_sublist {separator : String} {pieces others : List String}
    (kept : pieces.Sublist others) :
    (join separator pieces).length ≤ (join separator others).length := by
  induction kept with
  | slnil => exact Nat.le_refl _
  | @cons pieces others piece _ ih =>
      cases others with
      | nil => simp_all [join]
      | cons second rest =>
          rw [join, String.length_append]
          · exact Nat.le_trans ih (Nat.le_add_left _ _)
          · simp
  | @cons_cons pieces others piece kept ih =>
      cases pieces with
      | nil =>
          cases others with
          | nil => exact Nat.le_refl _
          | cons second rest => simp [join, Nat.add_assoc]
      | cons second rest =>
          obtain ⟨third, behind, rfl⟩ : ∃ third behind, others = third :: behind :=
            List.exists_cons_of_ne_nil (by rintro rfl; cases kept)
          simp only [join, String.length_append]
          exact Nat.add_le_add_left ih _

theorem length_components_le (s : String) : (join "/" (components s)).length ≤ s.length := by
  have kept : (components s).Sublist (split "/" s) := List.filter_sublist
  have shorter := @length_join_le_of_sublist "/" _ _ kept
  rwa [join_split (by decide)] at shorter

/-- A text is the slashes that give it its root, and a rest with the same components. -/
theorem exists_rest_of_root (s : String) :
    ∃ rest, s = (ofText s).root.text ++ rest ∧ components s = components rest := by
  have slash : ∀ {s : String} {rest : List Char}, s.toList = '/' :: rest →
      s = "/" ++ String.ofList rest ∧ components s = components (String.ofList rest) := by
    intro s rest begins
    have whole : s = "/" ++ String.ofList rest := by
      rw [← String.toList_inj, begins]
      simp
    exact ⟨whole, by rw [whole, components_slash]⟩
  change ∃ rest, s = (Root.ofChars s.toList).text ++ rest ∧ components s = components rest
  unfold Root.ofChars
  split
  · next rest begins => exact ⟨_, slash begins⟩
  · next rest _ begins =>
    obtain ⟨whole, same⟩ := slash begins
    obtain ⟨wholeRest, sameRest⟩ := slash (@String.toList_ofList ('/' :: rest))
    refine ⟨String.ofList rest, ?_, same.trans sameRest⟩
    rw [whole, wholeRest, ← String.append_assoc]
    rfl
  · next rest _ begins => exact ⟨_, slash begins⟩
  · exact ⟨s, by simp [Root.text], rfl⟩

/-- Reading a text as a path does not lengthen it. -/
theorem length_text_ofText_le {s : String} (filled : s ≠ "") :
    (ofText s).text.length ≤ s.length := by
  obtain ⟨rest, whole, same⟩ := exists_rest_of_root s
  have shorter := length_components_le rest
  have written : (ofText s).text = "." ∨
      (ofText s).text = (ofText s).root.text ++ join "/" (components s) := by
    unfold text
    split
    · exact .inl rfl
    · exact .inr rfl
  rcases written with dot | joined
  · have positive : 0 < s.length := by
      simpa [Nat.pos_iff_ne_zero, ← String.length_toList] using filled
    rw [dot]
    exact positive
  · calc (ofText s).text.length
        = (ofText s).root.text.length + (join "/" (components rest)).length := by
          rw [joined, same, String.length_append]
      _ ≤ (ofText s).root.text.length + rest.length := Nat.add_le_add_left shorter _
      _ = s.length := by
          rw [← String.length_append, ← whole]

end Path

end PathExpr

import PathExpr.Expr.Separator
import PathExpr.Namespace
import PathExpr.Project.Group

/-!
# References to other namespaces

An alternative may borrow from another namespace: the word for that namespace, a
star, and an identifier.  A reference into a project has a group and a colon in
front of the identifier.
-/

namespace PathExpr.Expr

open PathExpr.Text

/-- Whether the text before the first star begins with the word for a namespace. -/
def startsReference (segment : String) : Bool :=
  match cut? "*" segment with
  | none => false
  | some (head, _) => (Namespace.ofLead? (trim head)).isSome

/-- What follows the stars after the word for the namespace. -/
def referenceIdent? (segment : String) (ns : Namespace) : Option String :=
  let rest := trim ((stripLead? ns.word segment).getD segment)
  if startsWith "*" rest then
    some (trim (String.ofList (rest.toList.dropWhile (· == '*'))))
  else none

/-- The group and the identifier of a reference into a project. -/
def projectReference? (ident : String) : Option (ProjectGroup × String) :=
  match chunks ident with
  | [tag, rest] => (ProjectGroup.parse? tag).map fun group => (group, rest)
  | _ => none

theorem length_stripLead_getD_le (lead s : String) :
    ((stripLead? lead s).getD s).length ≤ s.length := by
  unfold stripLead?
  cases h : afterLead? lead.toList s.toList with
  | none => simp
  | some rest =>
    have := congrArg List.length (afterLead?_eq_some.1 h)
    simp [← String.length_toList, this]

theorem length_dropStars_lt {s : String} (h : startsWith "*" s = true) :
    (s.toList.dropWhile (· == '*')).length < s.length := by
  rw [← String.length_toList]
  cases hs : s.toList with
  | nil => simp [startsWith, afterLead?, hs] at h
  | cons c rest =>
    have hc : c = '*' := by
      simp only [startsWith, hs, show "*".toList = ['*'] from rfl, afterLead?] at h
      split at h
      · next eq => exact eq.symm
      · simp at h
    have := (List.dropWhile_sublist (· == '*') (l := rest)).length_le
    simp only [hc, List.dropWhile_cons, beq_self_eq_true, if_true, List.length_cons]
    omega

/-- The identifier of a reference is shorter than the reference. -/
theorem length_referenceIdent? {segment ident : String} {ns : Namespace}
    (h : referenceIdent? segment ns = some ident) : ident.length < segment.length := by
  simp only [referenceIdent?] at h
  split at h
  · next star =>
    obtain rfl := Option.some.inj h
    refine Nat.lt_of_le_of_lt (length_trim_le _) ?_
    rw [String.length_ofList]
    refine Nat.lt_of_lt_of_le (length_dropStars_lt star) ?_
    exact Nat.le_trans (length_trim_le _) (length_stripLead_getD_le _ _)
  · simp at h

/-- The identifier within the project is no longer than the whole reference. -/
theorem length_projectReference? {ident rest : String} {group : ProjectGroup}
    (h : projectReference? ident = some (group, rest)) : rest.length ≤ ident.length := by
  simp only [projectReference?] at h
  split at h
  · next tag tail pair =>
    obtain ⟨_, _, eq⟩ := Option.map_eq_some_iff.1 h
    obtain ⟨_, rfl⟩ := Prod.mk.inj eq
    simp only [chunks, chunkAt] at pair
    split at pair
    · simp at pair
    · simp at pair
    · split at pair
      · simp at pair
      · next before after found =>
        simp only [List.cons.injEq, and_true] at pair
        obtain ⟨_, rfl⟩ := pair
        refine Nat.le_trans (length_trim_le _) ?_
        obtain ⟨⟨_, _⟩, cutting, eq⟩ := Option.map_eq_some_iff.1 found
        obtain ⟨_, rfl⟩ := Prod.mk.inj eq
        have := congrArg List.length (eq_append_of_cutChars? cutting)
        simp only [List.length_append] at this
        simp only [← String.length_toList, String.toList_ofList]
        omega
  · simp at h

end PathExpr.Expr

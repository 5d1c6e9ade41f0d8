import PathExpr.Project.Group
import PathExpr.Proofs.Text.Marks
import PathExpr.Proofs.Text.Trim

/-!
# Groups and their dotted names

A chunk carries a group unless a parenthesis is missing or the last closing one
stands before the first opening one.  However many names stand between them, no
name of the group has a dot in it or blanks at its ends.

The name of a group leaves empty names out, and an empty organization is one that
was not written.  With parentheses around it the name of a group is read as this
group again if neither the qualifier nor the application is empty.
-/

namespace PathExpr

open PathExpr.Text

namespace ProjectGroup

/-! ## Parentheses -/

theorem inside?_eq_some_iff {chunk body : String} :
    inside? chunk = some body ↔ ∃ before after,
      chunk.toList = before ++ '(' :: (body.toList ++ ')' :: after) ∧
        '(' ∉ before ∧ ')' ∉ after := by
  unfold inside?
  constructor
  · intro found
    split at found
    · cases found
    · next before rest opened =>
      obtain ⟨whole, absent⟩ := cutChars?_eq_some_iff.mp opened
      split at found
      · cases found
      · next behind inner closed =>
        cases found
        obtain ⟨reversed, absentBehind⟩ := cutChars?_eq_some_iff.mp closed
        refine ⟨before, behind.reverse, ?_, absent, by simpa using absentBehind⟩
        have turned := congrArg List.reverse reversed
        rw [List.reverse_reverse] at turned
        simp [whole, turned]
  · rintro ⟨before, after, whole, absent, absentAfter⟩
    have opened : cutChars? ['('] chunk.toList = some (before, body.toList ++ ')' :: after) :=
      cutChars?_eq_some_iff.mpr ⟨whole, absent⟩
    have closed : cutChars? [')'] (body.toList ++ ')' :: after).reverse =
        some (after.reverse, body.toList.reverse) :=
      cutChars?_eq_some_iff.mpr ⟨by simp, by simpa using absentAfter⟩
    rw [opened]
    dsimp only
    rw [closed]
    simp

/-- The first opening parenthesis is behind the last closing one, or one of them is missing. -/
def Unmatched (cs : List Char) : Prop :=
  '(' ∉ cs ∨ ')' ∉ cs ∨ ∃ i j, FirstAt '(' cs i ∧ LastAt ')' cs j ∧ j < i

theorem inside?_eq_none_iff {chunk : String} :
    inside? chunk = none ↔ Unmatched chunk.toList := by
  constructor
  · intro missing
    by_cases opened : '(' ∈ chunk.toList
    · by_cases closed : ')' ∈ chunk.toList
      · obtain ⟨before, rest, whole, absent⟩ := List.eq_append_cons_of_mem opened
        have behind : ')' ∉ rest := by
          intro member
          obtain ⟨body, after, rfl, absentAfter⟩ := exists_last_of_mem member
          have found : inside? chunk = some (String.ofList body) :=
            inside?_eq_some_iff.mpr ⟨before, after, by simpa using whole, absent, absentAfter⟩
          rw [missing] at found
          cases found
        -- None is behind the first opening parenthesis, so the last closing one is ahead of it.
        have ahead : ')' ∈ before := by
          simpa [whole, behind] using closed
        obtain ⟨front, between, rfl, absentBetween⟩ := exists_last_of_mem ahead
        rw [whole]
        refine .inr (.inr ⟨_, front.length, firstAt_append absent rest, ?_, by simp⟩)
        have last : ')' ∉ between ++ '(' :: rest := by
          simp [absentBetween, behind]
        simpa using lastAt_append front last
      · exact .inr (.inl closed)
    · exact .inl opened
  · intro unmatched
    cases found : inside? chunk with
    | none => rfl
    | some body =>
        obtain ⟨before, after, whole, absent, absentAfter⟩ := inside?_eq_some_iff.mp found
        rw [whole] at unmatched
        rcases unmatched with unopened | unclosed | ⟨i, j, first, last, less⟩
        · exact (unopened (by simp)).elim
        · exact (unclosed (by simp)).elim
        · have start := first.unique (firstAt_append absent _)
          have stop := lastAt_append (before ++ '(' :: body.toList) absentAfter
          rw [List.append_assoc, List.cons_append] at stop
          have finish := last.unique stop
          simp only [List.length_append, List.length_cons] at finish
          omega

/-! ## Names -/

/-- The names that stand in a text, between its dots. -/
def names (body : String) : List String :=
  (split "." body).map trim

theorem parse?_eq (chunk : String) :
    parse? chunk = (inside? chunk).bind fun body => ofNames (names body) := rfl

theorem exists_ofNames {pieces : List String} (filled : pieces ≠ []) :
    ∃ group, ofNames pieces = some group := by
  rcases pieces with _ | ⟨first, _ | ⟨second, _ | ⟨third, rest⟩⟩⟩
  · exact (filled rfl).elim
  · exact ⟨_, rfl⟩
  · exact ⟨_, rfl⟩
  · exact ⟨_, rfl⟩

theorem names_ne_nil (body : String) : names body ≠ [] := by
  simpa [names] using split_ne_nil "." body

theorem parse?_eq_none_iff_unmatched {chunk : String} :
    parse? chunk = none ↔ Unmatched chunk.toList := by
  rw [← inside?_eq_none_iff, parse?_eq]
  cases inside? chunk with
  | none => simp
  | some body =>
      obtain ⟨group, made⟩ := exists_ofNames (names_ne_nil body)
      simp [made]

/-- A name as it stands between dots: without a dot in it and without blanks at its ends. -/
structure IsName (name : String) : Prop where
  undotted : '.' ∉ name.toList
  trimmed : IsTrimmed name.toList

theorem isName_empty : IsName "" :=
  ⟨by simp, isTrimmed_nil⟩

theorem IsName.append {front rest : String} (isName : IsName front) (isNameRest : IsName rest) :
    IsName (front ++ rest) where
  undotted := by
    simp [isName.undotted, isNameRest.undotted]
  trimmed := by
    rw [String.toList_append]
    exact isName.trimmed.append isNameRest.trimmed

theorem isName_join_empty {pieces : List String} (named : ∀ piece ∈ pieces, IsName piece) :
    IsName (join "" pieces) := by
  fun_induction join "" pieces with
  | case1 => exact isName_empty
  | case2 piece => exact named piece List.mem_cons_self
  | case3 piece rest _ ih =>
      obtain ⟨first, others⟩ := List.forall_mem_cons.mp named
      exact (first.append isName_empty).append (ih others)

theorem isName_of_mem_names {body name : String} (member : name ∈ names body) : IsName name := by
  obtain ⟨piece, inside, rfl⟩ := List.mem_map.mp member
  constructor
  · intro dotted
    exact @not_mem_of_mem_split '.' _ _ inside ((infix_trim piece).subset dotted)
  · rw [toList_trim]
    exact isTrimmed_trimChars piece.toList

/-- The names of a group are names that were read, the empty one, or several run together. -/
theorem isName_of_ofNames {pieces : List String} (named : ∀ piece ∈ pieces, IsName piece)
    {group : ProjectGroup} (made : ofNames pieces = some group) :
    ∀ field ∈ group.fields, IsName field := by
  rcases pieces with _ | ⟨first, _ | ⟨second, rest⟩⟩
  · cases made
  · cases made
    simpa [fields, isName_empty] using named
  · rcases rest with _ | ⟨third, rest⟩
    · cases made
      simpa [fields, isName_empty] using named
    · cases made
      simp only [List.forall_mem_cons] at named
      obtain ⟨qualifier, organization, application, others⟩ := named
      simp only [fields, List.forall_mem_cons]
      refine ⟨qualifier, organization, isName_join_empty ?_, by simp⟩
      exact List.forall_mem_cons.mpr ⟨application, others⟩

/-- However many names a chunk has, those of its group are names. -/
theorem isName_of_parse? {chunk : String} {group : ProjectGroup}
    (read : parse? chunk = some group) : ∀ field ∈ group.fields, IsName field := by
  rw [parse?_eq, Option.bind_eq_some_iff] at read
  obtain ⟨body, -, made⟩ := read
  exact isName_of_ofNames (fun _ member => isName_of_mem_names member) made

/-! ## The dotted name -/

theorem parse?_parenthesized (body : String) :
    parse? ("(" ++ body ++ ")") = ofNames (names body) := by
  have found : inside? ("(" ++ body ++ ")") = some body :=
    inside?_eq_some_iff.mpr ⟨[], [], by simp, by simp, by simp⟩
  rw [parse?_eq, found, Option.bind_some]

/-- Names that are joined with dots are read again. -/
theorem names_join {pieces : List String} (filled : pieces ≠ [])
    (named : ∀ piece ∈ pieces, IsName piece) : names (join "." pieces) = pieces := by
  have divided : split "." (join "." pieces) = pieces :=
    @split_join '.' _ filled fun piece member => (named piece member).undotted
  rw [names, divided]
  have kept : pieces.map trim = pieces.map id :=
    List.map_congr_left fun piece member => trim_eq_self_iff.mpr (named piece member).trimmed
  rw [kept, List.map_id]

theorem names_name {group : ProjectGroup} (named : ∀ field ∈ group.fields, IsName field)
    (filled : group ≠ ⟨"", "", ""⟩) : names group.name = group.fields.filter (· != "") := by
  refine names_join ?_ fun field member => named field (List.mem_filter.mp member).1
  intro none
  obtain ⟨qualifier, organization, application⟩ := group
  simp_all [fields]

/-- Of names that are not empty no group is made whose qualifier or application is. -/
theorem filled_of_ofNames {pieces : List String} (filled : ∀ piece ∈ pieces, piece ≠ "")
    {group : ProjectGroup} (made : ofNames pieces = some group) :
    group.qualifier ≠ "" ∧ group.application ≠ "" := by
  rcases pieces with _ | ⟨first, _ | ⟨second, rest⟩⟩
  · cases made
  · cases made
    simpa using filled
  · obtain ⟨qualifier, others⟩ := List.forall_mem_cons.mp filled
    rcases rest with _ | ⟨third, rest⟩
    · cases made
      exact ⟨qualifier, others second (by simp)⟩
    · cases made
      exact ⟨qualifier, join_ne_empty (others third (by simp)) rest⟩

theorem parse?_dotted_eq_some_iff {group : ProjectGroup}
    (named : ∀ field ∈ group.fields, IsName field) :
    parse? ("(" ++ group.name ++ ")") = some group ↔
      (group.qualifier ≠ "" ∧ group.application ≠ "") ∨ group = ⟨"", "", ""⟩ := by
  rw [parse?_parenthesized]
  by_cases blank : group = ⟨"", "", ""⟩
  · subst blank
    simpa using (by decide : ofNames (names (name ⟨"", "", ""⟩)) = some ⟨"", "", ""⟩)
  · rw [names_name named blank]
    constructor
    · intro again
      refine .inl (filled_of_ofNames ?_ again)
      intro field member
      simpa using List.of_mem_filter member
    · rintro (⟨qualifier, application⟩ | same)
      · obtain ⟨_, organization, _⟩ := group
        by_cases empty : organization = ""
        · simp_all [fields, ofNames]
        · simp_all [fields, ofNames, join]
      · exact (blank same).elim

/--
A chunk has no group exactly if a parenthesis is missing or the last closing one
stands before the first opening one.  The names of a group have no dot in them
and nothing to trim.  The group is read again from its dotted name exactly if
neither its qualifier nor its application is empty, or all its names are.
-/
theorem parse?_meaning (chunk : String) :
    (parse? chunk = none ↔ Unmatched chunk.toList) ∧
    ∀ group, parse? chunk = some group →
      (∀ field ∈ group.fields, '.' ∉ field.toList ∧ trim field = field) ∧
      (parse? ("(" ++ group.name ++ ")") = some group ↔
        (group.qualifier ≠ "" ∧ group.application ≠ "") ∨ group = ⟨"", "", ""⟩) := by
  constructor
  · exact parse?_eq_none_iff_unmatched
  · intro group read
    have named : ∀ field ∈ group.fields, IsName field := isName_of_parse? read
    refine ⟨?_, parse?_dotted_eq_some_iff named⟩
    intro field member
    have undotted := (named field member).undotted
    have trimmed := (named field member).trimmed
    exact ⟨undotted, trim_eq_self_iff.mpr trimmed⟩

/-- Four names, blanks around them, parentheses among them, and an organization left empty. -/
theorem parse?_meaning_of_four_names :
    let chunk := "$proj( c (d) .. a ) b.e)"
    let group : ProjectGroup := ⟨"c (d)", "", "a ) be"⟩
    parse? chunk = some group ∧ group.name = "c (d).a ) be" ∧
      (∀ field ∈ group.fields, '.' ∉ field.toList ∧ trim field = field) ∧
      parse? ("(" ++ group.name ++ ")") = some group := by
  intro chunk group
  have read : parse? chunk = some group := by
    decide
  obtain ⟨named, again⟩ := (parse?_meaning chunk).2 group read
  exact ⟨read, by decide, named, again.mpr (.inl ⟨by decide, by decide⟩)⟩

end ProjectGroup

end PathExpr

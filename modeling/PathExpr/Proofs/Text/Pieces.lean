import Mathlib.Data.List.Infix
import PathExpr.Text.Split

/-!
# Pieces between the occurrences of a separator

A separator is looked for from the left, and behind an occurrence the search
goes on where that occurrence ends.  The relation `Divided` describes the pieces
without following the search: each of them ends at the first occurrence in what
is left of the text.  Occurrences may overlap, so that a text may end with the
separator and have a last piece that is not empty.

Splitting finds these pieces, and the separator is in none of them.  Where it
ends the pieces, an empty piece at the end of the split is dropped; the text has
one separator more then than the pieces that are left, and is what they are
joined to otherwise.
-/

namespace PathExpr.Text

section Divided

variable {sep cs : List Char}

/-! ## The first occurrence -/

/-- The separator, written where `before` ends, occurs there for the first time. -/
def EndsFirst (sep before : List Char) : Prop :=
  -- An earlier occurrence would lie in `before` and all of this one but its last character.
  ¬ sep <:+: before ++ sep.dropLast

theorem endsFirst_nil (nonempty : sep ≠ []) : EndsFirst sep [] := by
  intro found
  have short := found.length_le
  have filled := List.length_pos_iff.mpr nonempty
  rw [List.nil_append, List.length_dropLast] at short
  omega

/-- One character more in front is one place more where the separator must not begin. -/
theorem endsFirst_cons_iff (nonempty : sep ≠ []) {c : Char} {before : List Char}
    (after : List Char) :
    EndsFirst sep (c :: before) ↔
      ¬ sep <+: c :: (before ++ sep ++ after) ∧ EndsFirst sep before := by
  have filled := List.length_pos_iff.mpr nonempty
  have front : c :: (before ++ sep.dropLast) <+: c :: (before ++ sep ++ after) := by
    rw [List.append_assoc, List.prefix_cons_inj, List.prefix_append_right_inj]
    exact (List.dropLast_prefix sep).trans (List.prefix_append sep after)
  have fits : sep.length ≤ (c :: (before ++ sep.dropLast)).length := by
    simp only [List.length_cons, List.length_append, List.length_dropLast]
    omega
  rw [EndsFirst, List.cons_append, List.infix_cons_iff, not_or]
  apply and_congr_left'
  rw [not_iff_not]
  constructor
  · exact fun here => here.trans front
  · exact fun here => List.prefix_of_prefix_length_le here front fits

theorem exists_endsFirst (nonempty : sep ≠ []) (found : sep <:+: cs) :
    ∃ before after, cs = before ++ sep ++ after ∧ EndsFirst sep before := by
  induction cs with
  | nil => exact absurd (List.infix_nil.mp found) nonempty
  | cons c cs ih =>
      by_cases here : sep <+: c :: cs
      · rcases here with ⟨after, whole⟩
        exact ⟨[], after, whole.symm, endsFirst_nil nonempty⟩
      · have behind := (List.infix_cons_iff.mp found).resolve_left here
        rcases ih behind with ⟨before, after, rfl, first⟩
        exact ⟨c :: before, after, rfl, (endsFirst_cons_iff nonempty after).mpr ⟨here, first⟩⟩

/-! ## Division -/

/-- The pieces of a list between the occurrences of a separator, met from the left. -/
inductive Divided (sep : List Char) : List Char → List (List Char) → Prop
  /-- A list without the separator is its only piece. -/
  | whole {cs : List Char} (absent : ¬ sep <:+: cs) : Divided sep cs [cs]
  /-- A piece ends where the separator occurs for the first time. -/
  | cut {before after : List Char} {pieces : List (List Char)} (first : EndsFirst sep before)
      (rest : Divided sep after pieces) : Divided sep (before ++ sep ++ after) (before :: pieces)

theorem exists_divided (nonempty : sep ≠ []) (cs : List Char) :
    ∃ pieces, Divided sep cs pieces := by
  -- The search goes on behind a whole occurrence, and so the induction is on the length.
  generalize size : cs.length = n
  induction n using Nat.strongRecOn generalizing cs with
  | ind n ih =>
      by_cases found : sep <:+: cs
      · rcases exists_endsFirst nonempty found with ⟨before, after, rfl, first⟩
        have filled := List.length_pos_iff.mpr nonempty
        have shorter : after.length < n := by
          simp only [List.length_append] at size
          omega
        rcases ih _ shorter after rfl with ⟨pieces, rest⟩
        exact ⟨before :: pieces, .cut first rest⟩
      · exact ⟨[cs], .whole found⟩

/-- No piece has the separator in it. -/
theorem Divided.not_infix_of_mem {pieces : List (List Char)} (divided : Divided sep cs pieces) :
    ∀ piece ∈ pieces, ¬ sep <:+: piece := by
  induction divided with
  | whole absent => exact List.forall_mem_singleton.mpr absent
  | cut first rest ih =>
      refine List.forall_mem_cons.mpr ⟨fun found => ?_, ih⟩
      exact first (found.trans (List.prefix_append _ _).isInfix)

/-! ## Splitting -/

theorem splitChars_of_not_infix (absent : ¬ sep <:+: cs) : splitChars sep 0 cs = [cs] := by
  induction cs with
  | nil => rfl
  | cons c cs ih =>
      rw [List.infix_cons_iff, not_or] at absent
      rw [splitChars, afterLead?_eq_none_iff.mpr absent.1, ih absent.2]
      rfl

/-- The first piece goes up to the first occurrence. -/
theorem splitChars_of_endsFirst (nonempty : sep ≠ []) {before : List Char}
    (first : EndsFirst sep before) (after : List Char) :
    splitChars sep 0 (before ++ sep ++ after) = before :: splitChars sep 0 after := by
  induction before with
  | nil =>
      rcases List.exists_cons_of_ne_nil nonempty with ⟨d, tail, rfl⟩
      have lead := afterLead?_append (d :: tail) after
      rw [List.cons_append] at lead
      rw [List.nil_append, List.cons_append, splitChars, lead, List.length_cons,
        Nat.add_sub_cancel, splitChars_add_length]
  | cons c before ih =>
      rcases (endsFirst_cons_iff nonempty after).mp first with ⟨absent, later⟩
      rw [List.cons_append, List.cons_append, splitChars, afterLead?_eq_none_iff.mpr absent,
        ih later]
      rfl

theorem Divided.splitChars_eq (nonempty : sep ≠ []) {pieces : List (List Char)}
    (divided : Divided sep cs pieces) : splitChars sep 0 cs = pieces := by
  induction divided with
  | whole absent => exact splitChars_of_not_infix absent
  | cut first rest ih => rw [splitChars_of_endsFirst nonempty first, ih]

/-- Splitting finds the pieces between the occurrences. -/
theorem divided_iff (nonempty : sep ≠ []) {pieces : List (List Char)} :
    Divided sep cs pieces ↔ splitChars sep 0 cs = pieces := by
  constructor
  · exact Divided.splitChars_eq nonempty
  · rintro rfl
    rcases exists_divided nonempty cs with ⟨pieces, divided⟩
    rwa [divided.splitChars_eq nonempty]

theorem two_le_length_splitChars (nonempty : sep ≠ []) (found : sep <:+: cs) :
    2 ≤ (splitChars sep 0 cs).length := by
  rcases exists_endsFirst nonempty found with ⟨before, after, rfl, first⟩
  have behind := List.length_pos_iff.mpr (splitChars_ne_nil sep 0 after)
  rw [splitChars_of_endsFirst nonempty first, List.length_cons]
  omega

end Divided

section Texts

variable {separator s : String}

theorem split_ne_nil (separator s : String) : split separator s ≠ [] := by
  simpa [split] using splitChars_ne_nil separator.toList 0 s.toList

theorem divided_split (nonempty : separator ≠ "") (s : String) :
    Divided separator.toList s.toList ((split separator s).map String.toList) := by
  rw [split, List.map_map, divided_iff (by simpa using nonempty)]
  simp [Function.comp_def]

/-- No piece between the occurrences of a separator has the separator in it. -/
theorem not_infix_of_mem_split (nonempty : separator ≠ "") {piece : String}
    (member : piece ∈ split separator s) : ¬ separator.toList <:+: piece.toList :=
  (divided_split nonempty s).not_infix_of_mem _ (List.mem_map_of_mem member)

/-! ## Joining -/

theorem join_cons {piece : String} {rest : List String} (more : rest ≠ []) :
    join separator (piece :: rest) = piece ++ separator ++ join separator rest := by
  rcases List.exists_cons_of_ne_nil more with ⟨second, others, rfl⟩
  rfl

/-- An empty piece at the end stands for a separator there. -/
theorem join_concat {pieces : List String} (nonempty : pieces ≠ []) :
    join separator (pieces ++ [""]) = join separator pieces ++ separator := by
  fun_induction join separator pieces with
  | case1 => exact absurd rfl nonempty
  | case2 piece => simp [join]
  | case3 piece rest more ih =>
      have behind : rest ++ [""] ≠ [] := List.append_ne_nil_of_left_ne_nil more _
      rw [List.cons_append, join_cons behind, ih more, ← String.append_assoc]

/-! ## Pieces that the separator ends -/

/-- The pieces that the separator ends: all of them, but for one empty piece at the end. -/
theorem splitTerminated_of_ne_empty (nonempty : s ≠ "") (separator : String) :
    splitTerminated separator s =
      if (split separator s).getLast? = some "" then (split separator s).dropLast
      else split separator s := by
  simp [splitTerminated, nonempty]

theorem split_of_filled (filled : (split separator s).getLast? ≠ some "") :
    split separator s = splitTerminated separator s := by
  have nonempty : s ≠ "" := by
    rintro rfl
    exact filled rfl
  rw [splitTerminated_of_ne_empty nonempty, if_neg filled]

/-- An empty piece at the end is dropped, and only that one. -/
theorem split_of_ended (ended : (split separator s).getLast? = some "") :
    split separator s = splitTerminated separator s ++ [""] := by
  by_cases empty : s = ""
  · subst empty
    rfl
  · rw [splitTerminated_of_ne_empty empty, if_pos ended]
    exact (List.dropLast_append_getLast? "" ended).symm

/--
What the pieces that a separator ends are of a text, and of the full split, which has the
pieces between all occurrences.
-/
structure EndedPieces (separator s : String) (pieces : List String) : Prop where
  /-- The full split takes the text apart at every occurrence, met from the left. -/
  divided : Divided separator.toList s.toList ((split separator s).map String.toList)
  /-- No piece has the separator in it. -/
  clear : ∀ piece ∈ pieces, ¬ separator.toList <:+: piece.toList
  /-- All pieces of the full split are kept, unless the last of them is empty. -/
  kept_iff : split separator s = pieces ↔ (split separator s).getLast? ≠ some ""
  /-- An empty piece at the end of the full split is dropped, and nothing else. -/
  dropped_iff : split separator s = pieces ++ [""] ↔ (split separator s).getLast? = some ""
  /-- The text is what the pieces are joined to, unless a piece was dropped from it. -/
  joined_iff : join separator pieces = s ↔ s = "" ∨ (split separator s).getLast? ≠ some ""
  /-- Where a piece was dropped, the text has one separator more. -/
  ended_iff : join separator pieces ++ separator = s ↔
    s ≠ "" ∧ (split separator s).getLast? = some ""

theorem mem_split_of_mem_splitTerminated {piece : String}
    (member : piece ∈ splitTerminated separator s) : piece ∈ split separator s := by
  by_cases ended : (split separator s).getLast? = some ""
  · rw [split_of_ended ended]
    exact List.mem_append_left _ member
  · rwa [split_of_filled ended]

section Ended

variable (nonempty : separator ≠ "")

include nonempty

theorem join_of_filled (filled : (split separator s).getLast? ≠ some "") :
    join separator (splitTerminated separator s) = s := by
  rw [← split_of_filled filled, join_split nonempty]

theorem join_of_ended (written : s ≠ "") (ended : (split separator s).getLast? = some "") :
    join separator (splitTerminated separator s) ++ separator = s := by
  have full := split_of_ended ended
  have anyPiece : splitTerminated separator s ≠ [] := by
    intro none
    rw [none, List.nil_append] at full
    apply written
    rw [← join_split nonempty s, full]
    rfl
  rw [← join_concat anyPiece, ← full, join_split nonempty]

theorem append_separator_ne (s : String) : s ++ separator ≠ s := by
  intro same
  apply nonempty
  have chars := congrArg String.toList same
  rw [String.toList_append, List.append_right_eq_self] at chars
  exact String.toList_eq_nil_iff.mp chars

theorem join_eq_self_iff : join separator (splitTerminated separator s) = s ↔
    s = "" ∨ (split separator s).getLast? ≠ some "" := by
  constructor
  · intro joined
    by_contra other
    rw [not_or, not_not] at other
    have longer := join_of_ended nonempty other.1 other.2
    rw [joined] at longer
    exact append_separator_ne nonempty s longer
  · rintro (rfl | filled)
    · rfl
    · exact join_of_filled nonempty filled

theorem join_append_eq_self_iff : join separator (splitTerminated separator s) ++ separator = s ↔
    s ≠ "" ∧ (split separator s).getLast? = some "" := by
  constructor
  · intro longer
    by_contra other
    have kept := (not_and_or.mp other).imp_left not_not.mp
    rw [(join_eq_self_iff nonempty).mpr kept] at longer
    exact append_separator_ne nonempty s longer
  · rintro ⟨written, ended⟩
    exact join_of_ended nonempty written ended

theorem endedPieces_splitTerminated :
    EndedPieces separator s (splitTerminated separator s) where
  divided := divided_split nonempty s
  clear := fun _ member => not_infix_of_mem_split nonempty (mem_split_of_mem_splitTerminated member)
  kept_iff := by
    constructor
    · intro kept ended
      have dropped := split_of_ended ended
      rw [kept, List.self_eq_append_right] at dropped
      cases dropped
    · exact split_of_filled
  dropped_iff := by
    constructor
    · intro dropped
      rw [dropped]
      exact List.getLast?_concat
    · exact split_of_ended
  joined_iff := join_eq_self_iff nonempty
  ended_iff := join_append_eq_self_iff nonempty

end Ended

end Texts

end PathExpr.Text

import Mathlib.Data.List.DropRight
import PathExpr.Text.Blank

/-!
# Trimming

A list of characters is blanks, a trimmed core, and blanks again; trimming gives
the core.  The core is all that a later operation needs to know: a list is
trimmed when neither of its ends is blank, and blanks around a list do not
change what trimming makes of it.
-/

namespace PathExpr.Text

/-- Neither end is blank. -/
structure IsTrimmed (cs : List Char) : Prop where
  head : ∀ c ∈ cs.head?, isBlank c = false
  last : ∀ c ∈ cs.getLast?, isBlank c = false

/-- All characters are blank. -/
def AllBlank (cs : List Char) : Prop :=
  ∀ c ∈ cs, isBlank c = true

theorem dropEndWhile_eq (test : Char → Bool) (cs : List Char) :
    dropEndWhile test cs = cs.rdropWhile test := by
  rfl

theorem trimChars_of_allBlank {cs : List Char} (blank : AllBlank cs) : trimChars cs = [] := by
  have dropped : cs.dropWhile isBlank = [] := List.dropWhile_eq_nil_iff.mpr blank
  rw [trimChars, dropped]
  rfl

@[simp]
theorem trimChars_nil : trimChars [] = [] := by
  rfl

theorem trimChars_of_isTrimmed {cs : List Char} (trimmed : IsTrimmed cs) :
    trimChars cs = cs := by
  have front : cs.dropWhile isBlank = cs := by
    cases cs with
    | nil => rfl
    | cons c rest => simp [trimmed.head c rfl]
  rw [trimChars, front, dropEndWhile_eq, List.rdropWhile_eq_self_iff]
  intro nonempty
  simp [trimmed.last _ (List.getLast?_eq_some_getLast nonempty)]

/-- Blanks in front are trimmed away. -/
theorem trimChars_append_left {blanks : List Char} (blank : AllBlank blanks) (cs : List Char) :
    trimChars (blanks ++ cs) = trimChars cs := by
  rw [trimChars, trimChars, List.dropWhile_append_of_pos blank]

/-- Blanks behind are trimmed away. -/
theorem trimChars_append_right (cs : List Char) {blanks : List Char} (blank : AllBlank blanks) :
    trimChars (cs ++ blanks) = trimChars cs := by
  have behind : ∀ front : List Char, dropEndWhile isBlank (front ++ blanks) =
      dropEndWhile isBlank front := by
    intro front
    have reversed : ∀ c ∈ blanks.reverse, isBlank c = true := by
      simpa [AllBlank] using blank
    rw [dropEndWhile, dropEndWhile, List.reverse_append, List.dropWhile_append_of_pos reversed]
  by_cases allBlank : AllBlank cs
  · rw [trimChars_append_left allBlank, trimChars_of_allBlank blank, trimChars_of_allBlank allBlank]
  · have dropped : (cs ++ blanks).dropWhile isBlank = cs.dropWhile isBlank ++ blanks := by
      rw [List.dropWhile_append]
      have filled : cs.dropWhile isBlank ≠ [] :=
        fun none => allBlank (List.dropWhile_eq_nil_iff.mp none)
      simp [filled]
    rw [trimChars, dropped, behind, trimChars]

theorem isTrimmed_trimChars (cs : List Char) : IsTrimmed (trimChars cs) where
  head := by
    intro c first
    -- The core is a prefix of what is left once the blanks in front are gone.
    rcases List.rdropWhile_prefix isBlank (cs.dropWhile isBlank) with ⟨rest, whole⟩
    have front : (cs.dropWhile isBlank).head? = some c := by
      rw [← whole, List.head?_append, show (List.rdropWhile isBlank (cs.dropWhile isBlank)).head? =
        some c from first]
      rfl
    have spec := List.head?_dropWhile_not isBlank cs
    rw [front] at spec
    exact spec
  last := by
    intro c final
    rw [trimChars, dropEndWhile_eq] at final
    have nonempty : List.rdropWhile isBlank (cs.dropWhile isBlank) ≠ [] := by
      intro empty
      simp [empty] at final
    rw [List.getLast?_eq_some_getLast nonempty, Option.mem_some_iff] at final
    have spec := List.rdropWhile_last_not isBlank (cs.dropWhile isBlank) nonempty
    rw [final] at spec
    simpa using spec

theorem isTrimmed_nil : IsTrimmed [] where
  head := by simp
  last := by simp

theorem IsTrimmed.append {front rest : List Char} (trimmed : IsTrimmed front)
    (trimmedRest : IsTrimmed rest) : IsTrimmed (front ++ rest) where
  head := by
    intro c first
    rw [List.head?_append, Option.mem_def, Option.or_eq_some_iff] at first
    rcases first with here | ⟨-, behind⟩
    · exact trimmed.head c here
    · exact trimmedRest.head c behind
  last := by
    intro c final
    rw [List.getLast?_append, Option.mem_def, Option.or_eq_some_iff] at final
    rcases final with here | ⟨-, before⟩
    · exact trimmedRest.last c here
    · exact trimmed.last c before

/-- Trimming changes nothing exactly where there is nothing to trim. -/
theorem trim_eq_self_iff {s : String} : trim s = s ↔ IsTrimmed s.toList := by
  rw [← String.toList_inj, toList_trim]
  constructor
  · intro same
    rw [← same]
    exact isTrimmed_trimChars s.toList
  · exact trimChars_of_isTrimmed

theorem trimChars_surround {lead core tail : List Char} (leadBlank : AllBlank lead)
    (trimmed : IsTrimmed core) (tailBlank : AllBlank tail) :
    trimChars (lead ++ core ++ tail) = core := by
  rw [trimChars_append_right _ tailBlank, trimChars_append_left leadBlank,
    trimChars_of_isTrimmed trimmed]

/-- A list is blanks, what trimming leaves of it, and blanks again. -/
theorem exists_blanks (cs : List Char) :
    ∃ lead tail, cs = lead ++ trimChars cs ++ tail ∧ AllBlank lead ∧ AllBlank tail := by
  refine ⟨cs.takeWhile isBlank, (cs.dropWhile isBlank).rtakeWhile isBlank, ?_, ?_, ?_⟩
  · rw [trimChars, dropEndWhile_eq, List.append_assoc, List.rdropWhile_append_rtakeWhile,
      List.takeWhile_append_dropWhile]
  · exact fun c member => List.mem_takeWhile_imp member
  · exact fun c member => List.mem_rtakeWhile_imp member

theorem allBlank_of_trimChars {cs : List Char} (trimmed : trimChars cs = []) : AllBlank cs := by
  obtain ⟨lead, tail, whole, leadBlank, tailBlank⟩ := exists_blanks cs
  rw [whole, trimmed]
  intro c member
  simp only [List.append_nil, List.mem_append] at member
  rcases member with front | behind
  · exact leadBlank c front
  · exact tailBlank c behind

/-- What trimming leaves stands in the text. -/
theorem infix_trim (s : String) : (trim s).toList <:+: s.toList := by
  rcases exists_blanks s.toList with ⟨lead, tail, whole, -, -⟩
  exact ⟨lead, tail, by rw [toList_trim, ← whole]⟩

end PathExpr.Text

/-!
# Searching and splitting

A separator is any text.  `cut?` divides a text at the first occurrence of a
separator, `split` at every occurrence, leftmost first and without overlap, and
`join` puts the pieces together again.
-/

namespace PathExpr.Text

/-- What follows `lead` in a list that starts with it. -/
def afterLead? : List Char → List Char → Option (List Char)
  | [], rest => some rest
  | _ :: _, [] => none
  | c :: lead, d :: rest => if c = d then afterLead? lead rest else none

theorem afterLead?_eq_some {lead cs rest : List Char} :
    afterLead? lead cs = some rest ↔ cs = lead ++ rest := by
  induction lead generalizing cs with
  | nil => simp [afterLead?]
  | cons c lead ih =>
    cases cs with
    | nil => simp [afterLead?]
    | cons d cs =>
      by_cases h : c = d
      · simp [afterLead?, h, ih]
      · simp [afterLead?, h, Ne.symm h]

theorem afterLead?_eq_none_iff {lead cs : List Char} :
    afterLead? lead cs = none ↔ ¬ lead <+: cs := by
  rw [Option.eq_none_iff_forall_ne_some]
  constructor
  · rintro absent ⟨rest, whole⟩
    exact absent rest (afterLead?_eq_some.2 whole.symm)
  · intro absent rest found
    exact absent ⟨rest, (afterLead?_eq_some.1 found).symm⟩

@[simp]
theorem afterLead?_append (lead rest : List Char) : afterLead? lead (lead ++ rest) = some rest :=
  afterLead?_eq_some.2 rfl

/-- What stands before and after the first occurrence of `sep`. -/
def cutChars? (sep : List Char) : List Char → Option (List Char × List Char)
  | [] => if sep.isEmpty then some ([], []) else none
  | c :: rest =>
    match afterLead? sep (c :: rest) with
    | some after => some ([], after)
    | none => (cutChars? sep rest).map fun parts => (c :: parts.1, parts.2)

theorem eq_append_of_cutChars? {sep cs before after : List Char}
    (h : cutChars? sep cs = some (before, after)) : cs = before ++ sep ++ after := by
  induction cs generalizing before with
  | nil =>
    simp only [cutChars?] at h
    split at h <;> simp_all
  | cons c rest ih =>
    simp only [cutChars?] at h
    split at h
    · next lead =>
      obtain ⟨rfl, rfl⟩ := Prod.mk.inj (Option.some.inj h)
      simpa using afterLead?_eq_some.1 lead
    · obtain ⟨parts, found, eq⟩ := Option.map_eq_some_iff.1 h
      obtain ⟨rfl, rfl⟩ := Prod.mk.inj eq
      simp [ih found]

/-- The position of the first occurrence of `sep`, in characters. -/
def indexOf? (sep s : String) : Option Nat :=
  (cutChars? sep.toList s.toList).map fun parts => parts.1.length

/-- What stands before and after the first occurrence of `sep`. -/
def cut? (sep s : String) : Option (String × String) :=
  (cutChars? sep.toList s.toList).map fun parts =>
    (String.ofList parts.1, String.ofList parts.2)

/-- Whether `part` occurs in the text. -/
def contains (part s : String) : Bool :=
  (cutChars? part.toList s.toList).isSome

/-- What follows `lead` in a text that starts with it. -/
def stripLead? (lead s : String) : Option String :=
  (afterLead? lead.toList s.toList).map String.ofList

theorem stripLead?_of_append {lead s : String} {rest : List Char}
    (whole : s.toList = lead.toList ++ rest) : stripLead? lead s = some (String.ofList rest) := by
  rw [stripLead?, whole, afterLead?_append, Option.map_some]

theorem stripLead?_eq_none {lead s : String} (other : ¬ lead.toList <+: s.toList) :
    stripLead? lead s = none := by
  rw [stripLead?, afterLead?_eq_none_iff.2 other, Option.map_none]

/-- Whether the text starts with `lead`. -/
def startsWith (lead s : String) : Bool :=
  (afterLead? lead.toList s.toList).isSome

/-- Whether the text ends with `tail`. -/
def endsWith (tail s : String) : Bool :=
  (afterLead? tail.toList.reverse s.toList.reverse).isSome

/--
The pieces of a list between the occurrences of a non-empty `sep`.  The first
argument counts the characters of an occurrence that are still to be passed
over.
-/
def splitChars (sep : List Char) : Nat → List Char → List (List Char)
  | _, [] => [[]]
  | skip + 1, _ :: rest => splitChars sep skip rest
  | 0, c :: rest =>
    match afterLead? sep (c :: rest) with
    | some _ => [] :: splitChars sep (sep.length - 1) rest
    | none => (splitChars sep 0 rest).modifyHead (c :: ·)

theorem splitChars_ne_nil (sep : List Char) (skip : Nat) (cs : List Char) :
    splitChars sep skip cs ≠ [] := by
  fun_induction splitChars sep skip cs with
  | case1 => simp
  | case2 _ _ _ ih => exact ih
  | case3 => simp
  | case4 c rest _ ih =>
    cases h : splitChars sep 0 rest with
    | nil => exact absurd h ih
    | cons => simp

theorem splitChars_add_length (sep : List Char) (skipped rest : List Char) :
    splitChars sep skipped.length (skipped ++ rest) = splitChars sep 0 rest := by
  induction skipped with
  | nil => rfl
  | cons c skipped ih => simpa [splitChars] using ih

/-- Nothing is lost in splitting. -/
theorem intercalate_splitChars {sep : List Char} (nonempty : sep ≠ []) (cs : List Char) :
    sep.intercalate (splitChars sep 0 cs) = cs := by
  generalize size : cs.length = n
  induction n using Nat.strongRecOn generalizing cs with
  | ind n ih =>
  cases cs with
  | nil => simp [splitChars]
  | cons c rest =>
    rw [splitChars]
    cases lead : afterLead? sep (c :: rest) with
    | some after =>
      obtain ⟨d, tail, rfl⟩ := List.exists_cons_of_ne_nil nonempty
      have whole := afterLead?_eq_some.1 lead
      simp only [List.cons_append, List.cons.injEq] at whole
      obtain ⟨rfl, rfl⟩ := whole
      have shorter : after.length < n := by simp at size; omega
      have next := ih _ shorter after rfl
      simp only [List.length_cons, Nat.add_sub_cancel, splitChars_add_length]
      obtain ⟨piece, pieces, cut⟩ :=
        List.exists_cons_of_ne_nil (splitChars_ne_nil (c :: tail) 0 after)
      rw [cut] at next ⊢
      rw [List.intercalate_cons_cons, next]
      simp
    | none =>
      have next := ih rest.length (by simp at size; omega) rest rfl
      obtain ⟨piece, pieces, cut⟩ := List.exists_cons_of_ne_nil (splitChars_ne_nil sep 0 rest)
      rw [cut] at next
      simp only [cut, List.modifyHead_cons]
      cases pieces with
      | nil => simpa using next
      | cons => simpa [List.intercalate_cons_cons] using next

/-- The pieces of the text between the occurrences of a non-empty `sep`. -/
def split (sep s : String) : List String :=
  (splitChars sep.toList 0 s.toList).map String.ofList

/-- The pieces with `sep` between each two neighbours. -/
def join (sep : String) : List String → String
  | [] => ""
  | [piece] => piece
  | piece :: rest => piece ++ sep ++ join sep rest

theorem toList_join (sep : String) (pieces : List String) :
    (join sep pieces).toList = sep.toList.intercalate (pieces.map String.toList) := by
  fun_induction join sep pieces with
  | case1 => rfl
  | case2 => simp
  | case3 piece rest nonempty ih =>
    obtain ⟨second, others, rfl⟩ := List.exists_cons_of_ne_nil nonempty
    simp [ih, List.intercalate_cons_cons]

/-- Splitting at a separator and joining with it gives the text back. -/
theorem join_split {sep : String} (nonempty : sep ≠ "") (s : String) :
    join sep (split sep s) = s := by
  apply String.toList_inj.1
  rw [toList_join, split, List.map_map]
  have : (String.toList ∘ String.ofList) = id := by funext cs; simp
  rw [this, List.map_id]
  exact intercalate_splitChars (by simpa using nonempty) _

/--
The pieces of the text when `sep` ends each of them rather than stands between
them: one empty piece at the end is no piece.
-/
def splitTerminated (sep s : String) : List String :=
  if s.isEmpty then []
  else
    let pieces := split sep s
    if pieces.getLast? = some "" then pieces.dropLast else pieces

/-- Each occurrence of a non-empty `old` is written as `new`. -/
def replace (old new s : String) : String :=
  join new (split old s)

end PathExpr.Text

import PathExpr.Value

/-!
# Values in numbered parts

Parts that name each other make up a value.  Going inwards from a part, one has
either seen all there is after finitely many steps, and the value is an ordinary
one, or comes back to a part on the way, and the value contains itself.
-/

namespace PathExpr

/-- How many of the numbers have not been met. -/
def unmet (numbers met : List Nat) : Nat :=
  (numbers.filter fun number => !met.contains number).length

/-- A number that is met for the first time leaves one number less. -/
theorem unmet_cons_lt {numbers met : List Nat} {number : Nat} (known : number ∈ numbers)
    (fresh : met.contains number = false) : unmet numbers (number :: met) < unmet numbers met := by
  have fewer : (numbers.filter fun other => !(number :: met).contains other) =
      (numbers.filter fun other => !met.contains other).filter (· != number) := by
    rw [List.filter_filter]
    refine List.filter_congr fun other _ => ?_
    rw [List.contains_cons, Bool.not_or, bne]
  have dropped : number ∈ numbers.filter fun other => !met.contains other :=
    List.mem_filter.mpr ⟨known, by rw [fresh]; rfl⟩
  rw [unmet, fewer]
  exact List.length_filter_lt_length_iff_exists.mpr ⟨number, dropped, by simp⟩

/-- The numbers of parts. -/
def partNumbers (parts : List (Nat × Part)) : List Nat :=
  parts.map (·.1)

theorem mem_partNumbers_of_lookup {parts : List (Nat × Part)} {number : Nat} {part : Part}
    (found : parts.lookup number = some part) : number ∈ partNumbers parts := by
  induction parts with
  | nil => cases found
  | cons entry rest ih =>
      rw [List.lookup_cons] at found
      split at found
      · next same => exact List.mem_map.mpr ⟨entry, List.mem_cons_self, (eq_of_beq same).symm⟩
      · exact List.mem_cons_of_mem _ (ih found)

namespace Value

/-- The value that a place stands for, unless one comes back to a part on the way there. -/
def grow (parts : List (Nat × Part)) (way : List Nat) : Link → Option Value
  | .atom a => some a.value
  | .part number =>
    if met : way.contains number then none
    else
      match found : parts.lookup number with
      | none => none
      | some part =>
        have : unmet (partNumbers parts) (number :: way) < unmet (partNumbers parts) way :=
          unmet_cons_lt (mem_partNumbers_of_lookup found) (Bool.eq_false_iff.mpr met)
        match part with
        | .list items => do
          return .list (← items.mapM (grow parts (number :: way)))
        | .pairs entries => do
          return .list (← entries.mapM fun entry => do
            let key ← grow parts (number :: way) entry.1
            let value ← grow parts (number :: way) entry.2
            return .tuple [key, value])
        | .map entries => do
          return .map (← entries.mapM fun entry => do
            let value ← grow parts (number :: way) entry.2
            return (entry.1.value, value))
        | .set items => some (.set (items.map Atom.value))
termination_by unmet (partNumbers parts) way

/-- The value that numbered parts make up. -/
def ofParts (parts : List (Nat × Part)) (root : Link) : Value :=
  (grow parts [] root).getD (root.value parts)

end Value

end PathExpr

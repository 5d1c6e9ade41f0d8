import PathExpr.Proofs.Format.Reading
import PathExpr.Value.Display

/-!
# Values that cannot be shown

A value is shown part by part, also one that contains itself.  The only part that
has no text is an integer with too many digits, so that a value without such
integers has its text in every message.
-/

namespace PathExpr

open PathExpr.Format PathExpr.Number

namespace Value

/-! ## Integers in a value -/

/-- An integer stands somewhere in a value. -/
inductive HasInteger (n : Int) : Value → Prop
  | here : HasInteger n (.int n)
  | list {items : List Value} {item : Value} (member : item ∈ items)
      (inside : HasInteger n item) : HasInteger n (.list items)
  | tuple {items : List Value} {item : Value} (member : item ∈ items)
      (inside : HasInteger n item) : HasInteger n (.tuple items)
  | set {items : List Value} {item : Value} (member : item ∈ items)
      (inside : HasInteger n item) : HasInteger n (.set items)
  | key {entries : List (Value × Value)} {key value : Value} (member : (key, value) ∈ entries)
      (inside : HasInteger n key) : HasInteger n (.map entries)
  | value {entries : List (Value × Value)} {key value : Value} (member : (key, value) ∈ entries)
      (inside : HasInteger n value) : HasInteger n (.map entries)
  | layer {parts : List (Nat × Part)} {root : Nat}
      (inside : HasInteger n (opened (.knot parts root))) : HasInteger n (.knot parts root)

/-- All integers in the value have at most as many digits as can be written. -/
def IntegersShort (value : Value) : Prop :=
  ∀ n, value.HasInteger n → (Nat.toDigits 10 n.natAbs).length ≤ digitLimit

theorem integersShort_map {entries : List (Value × Value)}
    (short : ∀ entry ∈ entries, entry.1.IntegersShort ∧ entry.2.IntegersShort) :
    (Value.map entries).IntegersShort := by
  intro n inside
  cases inside with
  | key member within => exact (short _ member).1 n within
  | value member within => exact (short _ member).2 n within

/-- The first layer of a value has the integers of the value. -/
theorem hasInteger_of_opened {value : Value} {n : Int} (inside : value.opened.HasInteger n) :
    value.HasInteger n := by
  cases value with
  | knot parts root => exact .layer inside
  | _ => exact inside

theorem IntegersShort.opened {value : Value} (short : value.IntegersShort) :
    value.opened.IntegersShort :=
  fun n inside => short n (hasInteger_of_opened inside)

/-! ## Failures -/

/-- The failure of a value with an integer that is too long to be written. -/
def Overlong (value : Value) (fault : Fault) : Prop :=
  fault = .tooManyDigits none ∧ ¬ value.IntegersShort

/-- What a part of a value fails for, the value fails for. -/
theorem Overlong.of_part {part whole : Value} {fault : Fault} (overlong : part.Overlong fault)
    (inside : ∀ n, part.HasInteger n → whole.HasInteger n) : whole.Overlong fault :=
  ⟨overlong.1, fun short => overlong.2 fun n within => short n (inside n within)⟩

theorem overlong_of_atomDisplay {a : Atom} {fault : Fault}
    (failed : atomDisplay a = .error fault) : a.value.Overlong fault := by
  cases a with
  | int n =>
      rw [atomDisplay, intText] at failed
      split at failed
      · next long =>
        cases failed
        exact ⟨rfl, fun short => Nat.not_le.mpr long (short n .here)⟩
      · cases failed
  | _ => cases failed

theorem opened_knot {parts : List (Nat × Part)} {number : Nat} {part : Part}
    (found : parts.lookup number = some part) :
    opened (.knot parts number) = ofPart parts part := by
  rw [opened, found]

/-- A place in a knot fails to be shown for an integer inside what stands there. -/
theorem overlong_of_linkDisplay {parts : List (Nat × Part)} {way : List Nat} {link : Link}
    {fault : Fault} (failed : linkDisplay parts way link = .error fault) :
    (link.value parts).Overlong fault := by
  fun_induction linkDisplay parts way link with
  | case1 way a => exact overlong_of_atomDisplay failed
  | case2 way number none => cases failed
  | case3 way number part found met => cases failed
  | case4 way number met items found _ _ ih =>
      obtain ⟨item, member, inner⟩ := exists_of_mapM_eq_error (error_of_bind_pure failed)
      refine (ih item inner).of_part fun n inside => .layer ?_
      rw [opened_knot found]
      exact .list (List.mem_map_of_mem member) inside
  | case5 way number met entries found _ _ ihKey ihValue =>
      obtain ⟨entry, member, inner⟩ := exists_of_mapM_eq_error (error_of_bind_pure failed)
      have pair : Value.tuple [entry.1.value parts, entry.2.value parts] ∈
          entries.map fun entry => Value.tuple [entry.1.value parts, entry.2.value parts] :=
        List.mem_map_of_mem member
      obtain key | ⟨words, -, value⟩ := error_of_bind_eq_error inner
      · refine (ihKey entry key).of_part fun n inside => .layer ?_
        rw [opened_knot found]
        exact .list pair (.tuple List.mem_cons_self inside)
      · refine (ihValue entry (error_of_bind_pure value)).of_part fun n inside => .layer ?_
        rw [opened_knot found]
        exact .list pair (.tuple (List.mem_cons_of_mem _ List.mem_cons_self) inside)
  | case6 way number met entries found _ _ ih =>
      obtain ⟨entry, member, inner⟩ := exists_of_mapM_eq_error (error_of_bind_pure failed)
      have pair : (entry.1.value, entry.2.value parts) ∈
          entries.map fun entry => (entry.1.value, entry.2.value parts) :=
        List.mem_map_of_mem member
      obtain key | ⟨words, -, value⟩ := error_of_bind_eq_error inner
      · refine (overlong_of_atomDisplay key).of_part fun n inside => .layer ?_
        rw [opened_knot found]
        exact .key pair inside
      · refine (ih entry (error_of_bind_pure value)).of_part fun n inside => .layer ?_
        rw [opened_knot found]
        exact .value pair inside
  | case7 way number met items found _ _ =>
      obtain ⟨item, member, inner⟩ := exists_of_mapM_eq_error (error_of_bind_pure failed)
      refine (overlong_of_atomDisplay inner).of_part fun n inside => .layer ?_
      rw [opened_knot found]
      exact .set (List.mem_map_of_mem member) inside

mutual

/-- A value fails to be shown for an integer inside it alone. -/
theorem display_eq_error : {value : Value} → {fault : Fault} → value.display = .error fault →
    value.Overlong fault
  | .null, _, failed => overlong_of_atomDisplay (a := .null) failed
  | .bool b, _, failed => overlong_of_atomDisplay (a := .bool b) failed
  | .int n, _, failed => overlong_of_atomDisplay (a := .int n) failed
  | .float x, _, failed => overlong_of_atomDisplay (a := .float x) failed
  | .text s, _, failed => overlong_of_atomDisplay (a := .text s) failed
  | .bytes data, _, failed => overlong_of_atomDisplay (a := .bytes data) failed
  | .byteArray _, _, failed => nomatch failed
  | .date d, _, failed => overlong_of_atomDisplay (a := .date d) failed
  | .moment m, _, failed => overlong_of_atomDisplay (a := .moment m) failed
  | .time _, _, failed => nomatch failed
  | .list items, _, failed => by
      rw [display] at failed
      obtain ⟨item, member, overlong⟩ := exists_of_displayItems (error_of_bind_pure failed)
      exact overlong.of_part fun n inside => .list member inside
  | .tuple items, _, failed => by
      rw [display] at failed
      obtain shown | ⟨words, -, later⟩ := error_of_bind_eq_error failed
      · obtain ⟨item, member, overlong⟩ := exists_of_displayItems shown
        exact overlong.of_part fun n inside => .tuple member inside
      · split at later <;> cases later
  | .map entries, _, failed => by
      rw [display] at failed
      obtain ⟨entry, member, overlong⟩ := exists_of_displayEntries (error_of_bind_pure failed)
      obtain key | value := overlong
      · exact key.of_part fun n inside => .key member inside
      · exact value.of_part fun n inside => .value member inside
  | .set items, _, failed => by
      rw [display] at failed
      obtain ⟨item, member, overlong⟩ := exists_of_displayItems (error_of_bind_pure failed)
      exact overlong.of_part fun n inside => .set member inside
  | .knot _ _, _, failed => overlong_of_linkDisplay failed

theorem exists_of_displayItems : {items : List Value} → {fault : Fault} →
    displayItems items = .error fault → ∃ item ∈ items, item.Overlong fault
  | [], _, failed => nomatch failed
  | item :: rest, _, failed => by
      rw [displayItems] at failed
      obtain first | ⟨words, -, later⟩ := error_of_bind_eq_error failed
      · exact ⟨item, List.mem_cons_self, display_eq_error first⟩
      · obtain ⟨other, member, overlong⟩ := exists_of_displayItems (error_of_bind_pure later)
        exact ⟨other, List.mem_cons_of_mem item member, overlong⟩

theorem exists_of_displayEntries : {entries : List (Value × Value)} → {fault : Fault} →
    displayEntries entries = .error fault →
    ∃ entry ∈ entries, entry.1.Overlong fault ∨ entry.2.Overlong fault
  | [], _, failed => nomatch failed
  | (key, value) :: rest, _, failed => by
      rw [displayEntries] at failed
      obtain first | ⟨keyWords, -, later⟩ := error_of_bind_eq_error failed
      · exact ⟨_, List.mem_cons_self, .inl (display_eq_error first)⟩
      · obtain second | ⟨words, -, last⟩ := error_of_bind_eq_error later
        · exact ⟨_, List.mem_cons_self, .inr (display_eq_error second)⟩
        · obtain ⟨entry, member, overlong⟩ := exists_of_displayEntries (error_of_bind_pure last)
          exact ⟨entry, List.mem_cons_of_mem _ member, overlong⟩

end

/-- A value without overlong integers can be shown. -/
theorem exists_display (value : Value) (short : value.IntegersShort) :
    ∃ words, value.display = .ok words := by
  cases shown : value.display with
  | ok words => exact ⟨words, rfl⟩
  | error fault => exact ((display_eq_error shown).2 short).elim

theorem shown_eq_error {value : Value} {fault : Fault} (failed : value.shown = .error fault) :
    value.Overlong fault := by
  cases value with
  | text => cases failed
  | date => cases failed
  | moment => cases failed
  | time => cases failed
  | _ => exact display_eq_error failed

theorem exists_shown {value : Value} (short : value.IntegersShort) :
    ∃ words, value.shown = .ok words := by
  cases found : value.shown with
  | ok words => exact ⟨words, rfl⟩
  | error fault => exact ((shown_eq_error found).2 short).elim

end Value

end PathExpr

import Mathlib.Data.List.Forall2
import PathExpr.Format.Toml.Reader
import PathExpr.Proofs.Format.Toml.Shortened

/-!
# Arrays of texts

A document of one entry with an array of texts is read as this entry, whatever
the texts have become: nothing behind the array can change it.  The array holds
the texts as they were exactly if all of them are writable.
-/

namespace PathExpr.Format.Toml

open PathExpr.Text

/-! ## The array -/

/-- The items of an array up to the end of the document, each between quotes. -/
def arrayText (bodies : List (List Char)) : List Char :=
  bodies.flatMap (fun body => ' ' :: '"' :: (body ++ ['"', ','])) ++ [']', '\n']

theorem arrayText_cons (body : List Char) (bodies : List (List Char)) :
    arrayText (body :: bodies) = ' ' :: '"' :: (body ++ '"' :: ',' :: arrayText bodies) := by
  simp [arrayText]

theorem afterComma_arrayText (bodies : List (List Char)) : AfterComma (arrayText bodies) := by
  cases bodies with
  | nil => exact .done []
  | cons body bodies =>
      rw [arrayText_cons]
      exact .text _

theorem skipArrayGap_cons {c : Char} (solid : isGapOrLine c = false) (noComment : c ≠ '#')
    (fuel : Nat) (rest : List Char) : skipArrayGap fuel (c :: rest) = .ok (c :: rest) := by
  cases fuel with
  | zero => rfl
  | succ fuel =>
      rw [skipArrayGap, List.dropWhile_cons_of_neg (Bool.eq_false_iff.mp solid)]
      split
      · next found => exact absurd (List.cons.inj found).1 noComment
      · rfl

/-- Between quotes stands a basic string of one line, unless two more quotes follow the first. -/
theorem quotedText?_of_quote {cs : List Char} (apart : ∀ rest, cs ≠ '"' :: '"' :: rest) :
    quotedText? ('"' :: cs) =
      some ((basicText false (cs.length + 1) cs).map fun found =>
        (String.ofList found.1, found.2)) := by
  rw [quotedText?]
  · cases basicText false (cs.length + 1) cs <;> rfl
  · exact apart

theorem ne_of_head? {body : List Char} (noQuote : body.head? ≠ some '"') (after rest : List Char) :
    body ++ '"' :: ',' :: after ≠ '"' :: '"' :: rest := by
  cases body with
  | nil => simp
  | cons c body =>
      intro shape
      exact noQuote (congrArg some (List.cons.inj shape).1)

theorem skipArrayGap_arrayText_cons (body : List Char) (bodies : List (List Char)) :
    skipArrayGap (arrayText (body :: bodies)).length (arrayText (body :: bodies)) =
      .ok ('"' :: (body ++ '"' :: ',' :: arrayText bodies)) := by
  rw [arrayText_cons, List.length_cons, skipArrayGap, List.dropWhile_cons_of_pos rfl,
    List.dropWhile_cons_of_neg (by decide)]
  rfl

/-- An item and those behind it, up to the end of their array. -/
def itemsFrom (fuel : Nat) (item : Value) : List Char → Reading (List Value × List Char)
  | ']' :: rest => return ([item], rest)
  | ',' :: rest => do
      let (items, rest) ← readItems fuel rest
      return (item :: items, rest)
  | _ => malformed

theorem readItems_of_item {cs first : List Char} (gap : skipArrayGap cs.length cs = .ok first)
    (noEnd : first.head? ≠ some ']') (fuel : Nat) :
    readItems (fuel + 1) cs = readValue fuel first >>= fun found =>
      skipArrayGap found.2.length found.2 >>= itemsFrom fuel found.1 := by
  rw [readItems, gap]
  simp only [bind, Except.bind]
  split
  · exact absurd rfl noEnd
  · rfl

theorem readValue_of_quotedText? {cs : List Char} {part : Reading (String × List Char)}
    (quoted : quotedText? cs = some part) (fuel : Nat) :
    readValue (fuel + 1) cs = part.map fun found => (.text found.1, found.2) := by
  unfold readValue
  rw [quoted]
  cases part <;> rfl

/-- The first item of the array is the text behind its opening quote. -/
theorem readItems_arrayText_cons {body : List Char} (noQuote : body.head? ≠ some '"')
    (bodies : List (List Char)) (fuel : Nat) :
    ∃ bound, body.length < bound ∧
      readItems (fuel + 2) (arrayText (body :: bodies)) =
        basicText false bound (body ++ '"' :: ',' :: arrayText bodies) >>= fun found =>
          skipArrayGap found.2.length found.2 >>=
            itemsFrom (fuel + 1) (.text (String.ofList found.1)) := by
  refine ⟨(body ++ '"' :: ',' :: arrayText bodies).length + 1, ?_, ?_⟩
  · rw [List.length_append]
    omega
  · have noEnd : ('"' :: (body ++ '"' :: ',' :: arrayText bodies)).head? ≠ some ']' :=
      fun head => by cases head
    have quoted := quotedText?_of_quote fun rest => @ne_of_head? _ noQuote (arrayText bodies) rest
    rw [readItems_of_item (skipArrayGap_arrayText_cons body bodies) noEnd,
      readValue_of_quotedText? quoted]
    cases basicText false _ (body ++ '"' :: ',' :: arrayText bodies) <;> rfl

/-- Where the text ends at its closing quote, the other items follow. -/
theorem readItems_arrayText_of_basicText {body text : List Char} (noQuote : body.head? ≠ some '"')
    {bodies : List (List Char)}
    (read : ∀ bound, body.length < bound →
      basicText false bound (body ++ '"' :: ',' :: arrayText bodies) =
        .ok (text, ',' :: arrayText bodies)) (fuel : Nat) :
    readItems (fuel + 2) (arrayText (body :: bodies)) =
      (readItems (fuel + 1) (arrayText bodies)).map fun found =>
        (.text (String.ofList text) :: found.1, found.2) := by
  obtain ⟨bound, enough, items⟩ := readItems_arrayText_cons noQuote bodies fuel
  have comma := skipArrayGap_cons (show isGapOrLine ',' = false by decide) (by decide)
    (',' :: arrayText bodies).length (arrayText bodies)
  rw [items, read bound enough]
  simp only [bind, Except.bind, comma]
  rfl

theorem exists_of_itemsFrom {fuel : Nat} {item : Value} {cs : List Char}
    {found : List Value × List Char}
    (read : skipArrayGap cs.length cs >>= itemsFrom fuel item = .ok found) :
    ∃ others, found.1 = item :: others := by
  cases gap : skipArrayGap cs.length cs with
  | error why =>
      rw [gap] at read
      cases read
  | ok behind =>
      rw [gap] at read
      simp only [bind, Except.bind] at read
      unfold itemsFrom at read
      split at read
      · obtain rfl := Except.ok.inj read
        exact ⟨[], rfl⟩
      · obtain ⟨others, -, rfl⟩ := exists_of_map_eq_ok read
        exact ⟨others.1, rfl⟩
      · cases read

/-- An array is not read without its first item. -/
theorem exists_of_readItems {body : List Char} (noQuote : body.head? ≠ some '"')
    {bodies : List (List Char)} {fuel : Nat} {items : List Value} {rest : List Char}
    (read : readItems fuel (arrayText (body :: bodies)) = .ok (items, rest)) :
    ∃ bound text behind others,
      basicText false bound (body ++ '"' :: ',' :: arrayText bodies) = .ok (text, behind) ∧
        items = .text (String.ofList text) :: others := by
  obtain _ | _ | fuel := fuel
  · cases read
  · rw [readItems, skipArrayGap_arrayText_cons] at read
    cases read
  · obtain ⟨bound, -, whole⟩ := readItems_arrayText_cons noQuote bodies fuel
    rw [whole] at read
    cases found : basicText false bound (body ++ '"' :: ',' :: arrayText bodies) with
    | error why =>
        rw [found] at read
        cases read
    | ok part =>
        obtain ⟨text, behind⟩ := part
        rw [found] at read
        obtain ⟨others, first⟩ := exists_of_itemsFrom read
        exact ⟨bound, text, behind, others, found, first⟩

/-- What is written for each text of a list. -/
abbrev Written (raw : List String) (bodies : List (List Char)) : Prop :=
  List.Forall₂ (fun s body => basicBody s = .ok body) raw bodies

/-- A writable text is read back, and the other items behind it. -/
theorem readItems_escaped {s : String} (writable : IsWritable s.toList)
    (bodies : List (List Char)) (fuel : Nat) :
    readItems (fuel + 2) (arrayText (escaped s.toList :: bodies)) =
      (readItems (fuel + 1) (arrayText bodies)).map fun found =>
        (.text s :: found.1, found.2) := by
  have read : ∀ bound, (escaped s.toList).length < bound →
      basicText false bound (escaped s.toList ++ '"' :: ',' :: arrayText bodies) =
        .ok (s.toList, ',' :: arrayText bodies) := fun bound enough =>
    basicText_escaped writable.noTwoDigits
      (Nat.lt_of_le_of_lt (length_le_length_escaped s.toList) enough) _
  rw [readItems_arrayText_of_basicText (head?_escaped s.toList) read, String.ofList_toList]

/-- Writable texts are read back from their array. -/
theorem readItems_of_isWritable {raw : List String} (writable : ∀ s ∈ raw, IsWritable s.toList)
    {fuel : Nat} (enough : raw.length < fuel) :
    readItems fuel (arrayText (raw.map fun s => escaped s.toList)) =
      .ok (raw.map .text, ['\n']) := by
  induction raw generalizing fuel with
  | nil =>
      obtain ⟨fuel, rfl⟩ : ∃ n, fuel = n + 1 := ⟨fuel - 1, by omega⟩
      rfl
  | cons s raw ih =>
      obtain ⟨first, others⟩ := List.forall_mem_cons.mp writable
      rw [List.length_cons] at enough
      obtain ⟨fuel, rfl⟩ : ∃ n, fuel = n + 2 := ⟨fuel - 2, by omega⟩
      rw [List.map_cons, readItems_escaped first, @ih others (fuel + 1) (by omega)]
      rfl

/-- A text that is not writable is not read from its array. -/
theorem isWritable_of_readItems {raw : List String} {bodies : List (List Char)}
    (written : Written raw bodies) {fuel : Nat} {rest : List Char}
    (read : readItems fuel (arrayText bodies) = .ok (raw.map .text, rest)) :
    ∀ s ∈ raw, IsWritable s.toList := by
  induction written generalizing fuel with
  | nil => exact List.forall_mem_nil _
  | @cons s body raw bodies bodyWritten others ih =>
      by_cases writable : IsWritable s.toList
      · obtain rfl : escaped s.toList = body :=
          Except.ok.inj ((basicBody_of_isWritable writable).symm.trans bodyWritten)
        obtain _ | _ | fuel := fuel
        · cases read
        · rw [readItems, skipArrayGap_arrayText_cons] at read
          cases read
        · rw [readItems_escaped writable] at read
          obtain ⟨found, behind, pair⟩ := exists_of_map_eq_ok read
          obtain ⟨items, rfl⟩ := Prod.mk.inj pair
          refine List.forall_mem_cons.mpr ⟨writable, @ih (fuel + 1) ?_⟩
          rw [behind, ← (List.cons.inj items).2]
      · have shortened := isShortened_of_basicBody writable bodyWritten
        obtain ⟨bound, text, behind, items, found, first⟩ :=
          exists_of_readItems shortened.noQuote read
        have lighter := weight_escaped_le shortened.printable (afterComma_arrayText bodies) found
        -- What is read weighs less than the text that was written.
        obtain rfl : s = String.ofList text := Value.text.inj (List.cons.inj first).1
        rw [String.toList_ofList] at shortened
        exact absurd shortened.lighter (Nat.not_lt.mpr lighter)

end PathExpr.Format.Toml

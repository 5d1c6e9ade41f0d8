import PathExpr.Format.Xml.Reader
import PathExpr.Format.Xml.Writer

/-!
# Content that is written and read

The writer puts a reference in place of each character that would be taken for
markup, and the reader puts the character back.  What stands between the tags of
an element is therefore read as it was, character by character, and elements
without attributes are read in the order in which they were written.

Readers take a number of steps along.  One step is made for each character at
most, so as many steps as characters are always enough.
-/

namespace PathExpr.Format.Xml

open PathExpr.Text

/-! ## Names -/

/-- A name, which stands in a tag as it is. -/
def IsName (name : String) : Prop :=
  ∃ c rest, name.toList = c :: rest ∧ isNameStart c = true ∧ ∀ d ∈ rest, isNameChar d = true

theorem takeName_append {name : String} (isName : IsName name) {mark : Char}
    (ends : isNameChar mark = false) (behind : List Char) :
    takeName (name.toList ++ mark :: behind) = some (name, mark :: behind) := by
  obtain ⟨c, rest, letters, start, inside⟩ := isName
  have whole : String.ofList (c :: rest) = name := by
    rw [← letters, String.ofList_toList]
  have taken : (rest ++ mark :: behind).takeWhile isNameChar = rest := by
    simp [List.takeWhile_append_of_pos inside, ends]
  have dropped : (rest ++ mark :: behind).dropWhile isNameChar = mark :: behind := by
    simp [List.dropWhile_append_of_pos inside, ends]
  rw [letters, List.cons_append, takeName, if_pos start, taken, dropped, whole]

theorem passEndTag_append {name : String} (isName : IsName name) (behind : List Char) :
    passEndTag name (name.toList ++ '>' :: behind) = .ok behind := by
  rw [passEndTag, takeName_append isName (by decide)]
  simp [require, bind, Except.bind, skipBlanks, isXmlBlank, pure, Except.pure]

/-- An element may begin with the characters: no mark of other markup does. -/
def BeginsElement (cs : List Char) : Prop :=
  cs.head? ≠ some '/' ∧ cs.head? ≠ some '!' ∧ cs.head? ≠ some '?'

theorem IsName.beginsElement {name : String} (isName : IsName name) (behind : List Char) :
    BeginsElement (name.toList ++ behind) := by
  obtain ⟨c, rest, letters, start, -⟩ := isName
  have different : ∀ mark, isNameStart mark = false → c ≠ mark := by
    rintro mark none rfl
    rw [start] at none
    cases none
  simp [BeginsElement, letters, different '/' (by decide), different '!' (by decide),
    different '?' (by decide)]

/-! ## Content -/

/-- Content is read as items, up to the name in its end tag. -/
structure ContentReads (doctype : Doctype) (cs : List Char) (items : List Item)
    (behind : List Char) : Prop where
  reads : ∀ fuel, cs.length ≤ fuel → readContent doctype fuel cs = .ok (items, behind)
  shorter : behind.length ≤ cs.length

section Content

variable {doctype : Doctype} {cs behind : List Char} {items : List Item}

theorem ContentReads.close (doctype : Doctype) (behind : List Char) :
    ContentReads doctype ('<' :: '/' :: behind) [] behind := by
  refine ⟨fun fuel enough => ?_, by simp; omega⟩
  obtain ⟨fuel, rfl⟩ := Nat.exists_eq_add_of_le' (Nat.le_trans (by simp) enough : 1 ≤ fuel)
  rw [readContent]
  rfl

/-- A character that is no markup stands for itself. -/
theorem ContentReads.char (later : ContentReads doctype cs items behind) {c : Char}
    (legal : isXmlChar c = true) (noTag : c ≠ '<') (noReference : c ≠ '&')
    (noEnd : ∀ rest, c :: cs ≠ ']' :: ']' :: '>' :: rest) :
    ContentReads doctype (c :: cs) (.text [c] :: items) behind := by
  refine ⟨fun fuel enough => ?_, Nat.le_succ_of_le later.shorter⟩
  obtain ⟨fuel, rfl⟩ := Nat.exists_eq_add_of_le' (Nat.le_trans (by simp) enough : 1 ≤ fuel)
  have onward := later.reads fuel (by simpa using enough)
  rw [readContent]
  · rw [if_pos legal, onward]
    rfl
  all_goals simp_all

theorem ContentReads.reference (later : ContentReads doctype cs items behind)
    {name : List Char} {c : Char}
    (read : readReference doctype.isLenient (name ++ ';' :: cs) = .ok ([c], cs)) :
    ContentReads doctype ('&' :: name ++ ';' :: cs) (.text [c] :: items) behind := by
  refine ⟨fun fuel enough => ?_, ?_⟩
  · obtain ⟨fuel, rfl⟩ := Nat.exists_eq_add_of_le' (Nat.le_trans (by simp) enough : 1 ≤ fuel)
    have onward := later.reads fuel (by simp at enough; omega)
    rw [List.cons_append, readContent, read]
    simp only [bind, Except.bind, onward]
    rfl
  · have := later.shorter
    simp
    omega

/-- What is written for a character is a reference to it, or the character where it is no markup. -/
theorem escapedText_cases (c : Char) :
    (∃ name, escapedText c = '&' :: name ++ [';'] ∧ ∀ lenient behind,
      readReference lenient (name ++ ';' :: behind) = .ok ([c], behind)) ∨
    escapedText c = [c] ∧ c ≠ '&' ∧ c ≠ '<' ∧ c ≠ '>' := by
  by_cases ampersand : c = '&'
  · subst ampersand
    exact Or.inl ⟨['a', 'm', 'p'], rfl, fun _ _ => rfl⟩
  by_cases less : c = '<'
  · subst less
    exact Or.inl ⟨['l', 't'], rfl, fun _ _ => rfl⟩
  by_cases greater : c = '>'
  · subst greater
    exact Or.inl ⟨['g', 't'], rfl, fun _ _ => rfl⟩
  exact Or.inr ⟨by simp [escapedText, ampersand, less, greater], ampersand, less, greater⟩

/-- Whatever a character is, it is read back from what is written for it. -/
theorem ContentReads.escaped (later : ContentReads doctype cs items behind) {c : Char}
    (legal : isXmlChar c = true) (noEnd : ∀ rest, cs ≠ ']' :: '>' :: rest) :
    ContentReads doctype (escapedText c ++ cs) (.text [c] :: items) behind := by
  rcases escapedText_cases c with ⟨name, written, reads⟩ | ⟨written, noReference, noTag, -⟩
  · rw [written, List.append_assoc]
    exact later.reference (reads _ _)
  · rw [written]
    exact later.char legal noTag noReference fun rest same => noEnd rest (List.cons.inj same).2

/-- Neither written text nor the mark of a tag behind it begins with the end of a tag. -/
theorem head?_escaped (text behind : List Char) :
    (text.flatMap escapedText ++ '<' :: behind).head? ≠ some '>' := by
  cases text with
  | nil => simp
  | cons c rest =>
      rw [List.flatMap_cons, List.append_assoc]
      rcases escapedText_cases c with ⟨name, written, -⟩ | ⟨written, -, -, noEnd⟩
      · simp [written]
      · simpa [written] using noEnd

/-- So the mark that ends a section never stands in it. -/
theorem ne_sectionEnd (text behind more : List Char) :
    text.flatMap escapedText ++ '<' :: behind ≠ ']' :: '>' :: more := by
  intro ends
  cases text with
  | nil => simp at ends
  | cons c rest =>
      rw [List.flatMap_cons, List.append_assoc] at ends
      rcases escapedText_cases c with ⟨name, written, -⟩ | ⟨written, -⟩
      · simp [written] at ends
      · rw [written, List.singleton_append] at ends
        have clear := head?_escaped rest behind
        rw [(List.cons.inj ends).2] at clear
        exact clear rfl

/-- The text of an element, one item for each character. -/
def textItems (text : List Char) : List Item :=
  text.map fun c => .text [c]

theorem ContentReads.text (later : ContentReads doctype ('<' :: cs) items behind)
    {text : List Char} (legal : ∀ c ∈ text, isXmlChar c = true) :
    ContentReads doctype (text.flatMap escapedText ++ '<' :: cs) (textItems text ++ items)
      behind := by
  induction text with
  | nil => exact later
  | cons c rest ih =>
      obtain ⟨first, others⟩ := List.forall_mem_cons.mp legal
      rw [List.flatMap_cons, List.append_assoc]
      exact (ih others).escaped first fun more => ne_sectionEnd rest cs more

/-- Blanks between tags are read as they are. -/
theorem ContentReads.blanks (later : ContentReads doctype cs items behind) {text : List Char}
    (blank : ∀ c ∈ text, isXmlBlank c = true) :
    ContentReads doctype (text ++ cs) (textItems text ++ items) behind := by
  induction text with
  | nil => exact later
  | cons c rest ih =>
      obtain ⟨first, others⟩ := List.forall_mem_cons.mp blank
      have known : c = ' ' ∨ c = '\t' ∨ c = '\n' ∨ c = '\r' := by
        simpa [isXmlBlank, or_assoc] using first
      refine (ih others).char ?_ ?_ ?_ ?_
      · rcases known with rfl | rfl | rfl | rfl <;> decide
      · rcases known with rfl | rfl | rfl | rfl <;> decide
      · rcases known with rfl | rfl | rfl | rfl <;> decide
      · intro more same
        have bracket : c = ']' := (List.cons.inj same).1
        rcases known with rfl | rfl | rfl | rfl <;> cases bracket

/-! ## Elements -/

theorem readAttributes_of_end (lenient : Bool) (fuel : Nat) (behind : List Char) :
    readAttributes lenient (fuel + 1) ('>' :: behind) = .ok ([], '>' :: behind) := by
  rw [readAttributes]
  rfl

theorem completeAttributes_nil {doctype : Doctype} (bare : doctype.attributes = [])
    (element : String) : completeAttributes doctype element [] = [] := by
  simp [completeAttributes, bare]

/-- An element without attributes has what its content is read as. -/
theorem readElement_of_content (bare : doctype.attributes = []) {name : String}
    (isName : IsName name) {rest : List Char}
    (content : ContentReads doctype cs items (name.toList ++ '>' :: rest)) {fuel : Nat}
    (enough : cs.length ≤ fuel) :
    readElement doctype (fuel + 1) (name.toList ++ '>' :: cs) =
      .ok (.mk name [] items, rest) := by
  rw [readElement, takeName_append isName (by decide)]
  simp only [require, bind, Except.bind, readAttributes_of_end, completeAttributes_nil bare,
    content.reads fuel enough, passEndTag_append isName]
  rfl

theorem ContentReads.element (bare : doctype.attributes = []) {name : String}
    (isName : IsName name) {inner rest : List Char} {own : List Item}
    (content : ContentReads doctype inner own (name.toList ++ '>' :: rest))
    (later : ContentReads doctype rest items behind) :
    ContentReads doctype ('<' :: name.toList ++ '>' :: inner)
      (.element (.mk name [] own) :: items) behind := by
  have within := content.shorter
  have further := later.shorter
  simp only [List.length_append, List.length_cons] at within
  refine ⟨fun fuel enough => ?_, by simp; omega⟩
  simp only [List.length_append, List.length_cons] at enough
  obtain ⟨fuel, rfl⟩ := Nat.exists_eq_add_of_le' (show 2 ≤ fuel by omega)
  obtain ⟨noEnd, noDeclaration, noInstruction⟩ := isName.beginsElement ('>' :: inner)
  have child : readElement doctype (fuel + 1) (name.toList ++ '>' :: inner) =
      .ok (.mk name [] own, rest) := readElement_of_content bare isName content (by omega)
  have onward := later.reads (fuel + 1) (by omega)
  rw [List.cons_append, readContent]
  · simp only [bind, Except.bind, child, onward]
    rfl
  all_goals
    intro more same
    simp [same] at noEnd noDeclaration noInstruction

end Content

end PathExpr.Format.Xml

import PathExpr.Proofs.Format.Xml.Content
import PathExpr.Proofs.Text.Trim

/-!
# Lists of texts in XML

A list of texts under one key becomes an element around an element for each
text.  The reader keeps of each text what trimming leaves, and nothing where
nothing is left; the elements that share the key are gathered under it, as
nothing, as one value or as a list, so that what is read depends on how many
they are.
-/

namespace PathExpr.Format.Xml

open PathExpr.Text

/-! ## What is written -/

/-- A name that is written for a key, and marks no text, comment or attribute there. -/
structure IsElementName (name : String) : Prop where
  isName : IsName name
  flawless : nameFlaw? name.toList = none

namespace IsElementName

variable {name : String}

/-- Nothing in a name of this kind is replaced or refused. -/
theorem elementName (named : IsElementName name) :
    elementName (.text name) = .ok name.toList := by
  simp [Xml.elementName, named.flawless]

theorem head?_ne (named : IsElementName name) {mark : Char} (other : isNameStart mark = false) :
    name.toList.head? ≠ some mark := by
  obtain ⟨c, rest, letters, start, -⟩ := named.isName
  rw [letters, List.head?_cons]
  rintro same
  obtain rfl := Option.some.inj same
  rw [start] at other
  cases other

theorem isKeyText_eq_false (named : IsElementName name) {special : String}
    (marked : special.toList.head? = some '#') : isKeyText (.text name) special = false := by
  rw [isKeyText, beq_eq_false_iff_ne]
  rintro rfl
  exact named.head?_ne (by decide) marked

/-- A key begins an attribute by a mark that begins no name. -/
theorem attributeKey?_eq_none (named : IsElementName name) :
    attributeKey? (.text name) = none := by
  have noMark := named.head?_ne (show isNameStart '@' = false by decide)
  obtain ⟨c, rest, letters, -⟩ := named.isName
  rw [letters, List.head?_cons] at noMark
  have different : ¬ '@' = c := fun same => noMark (congrArg some same.symm)
  rw [attributeKey?, letters, afterLead?, if_neg different]

theorem isKeyText_textKey (named : IsElementName name) :
    isKeyText (.text name) textKey = false :=
  named.isKeyText_eq_false rfl

theorem isKeyText_commentKey (named : IsElementName name) :
    isKeyText (.text name) commentKey = false :=
  named.isKeyText_eq_false rfl

/-- A list under the key is a row of elements; an empty one has none. -/
theorem isChild_list (named : IsElementName name) (items : List Value) :
    isChild (.text name) (.list items) = !items.isEmpty := by
  cases items with
  | nil => simp [isChild, isEmptyList]
  | cons => simp [isChild, isEmptyList, named.isKeyText_textKey, named.attributeKey?_eq_none]

end IsElementName

/-- The blanks in front of the elements for texts, and those behind. -/
def itemText (pretty : Bool) (key : String) (s : String) : List Char :=
  indentation pretty 1 ++ '<' :: key.toList ++ '>' ::
    (s.toList.flatMap escapedText ++ '<' :: '/' :: key.toList ++ '>' :: lineEnd pretty)

/-- What stands inside the element around the texts. -/
def contentOfTexts (pretty : Bool) (key : String) (raw : List String) : List Char :=
  (if raw.isEmpty then [] else lineEnd pretty) ++ raw.flatMap (itemText pretty key)

/-- The element around the texts. -/
def rootText (pretty : Bool) (root key : String) (raw : List String) : List Char :=
  '<' :: root.toList ++ '>' ::
    (contentOfTexts pretty key raw ++ '<' :: '/' :: root.toList ++ ['>'])

section Written

variable {root key : String} (pretty : Bool)

theorem writeElement_text (name : List Char) (s : String) :
    writeElement pretty 1 name (.text s) =
      .ok (wrapElement pretty 1 name ⟨[], s.toList⟩ [] false) := by
  rfl

/-- The elements for texts stand one behind the other, each on a line of its own if wanted. -/
theorem writeElements_texts (isFirst : Bool) (raw : List String) :
    writeElements pretty 1 key.toList isFirst (raw.map .text) =
      .ok (raw.flatMap (itemText pretty key)) := by
  induction raw generalizing isFirst with
  | nil => rw [List.map_nil, writeElements, List.flatMap_nil]
  | cons s rest ih =>
      have own : wrapElement pretty 1 key.toList ⟨[], s.toList⟩ [] false =
          itemText pretty key s := by
        simp [wrapElement, itemText, writeAttributes]
      rw [List.map_cons, writeElements, if_neg (by simp)]
      simp only [bind, Except.bind, writeElement_text, own, ih, List.flatMap_cons]
      rfl

theorem writeEntries_texts (keyed : IsElementName key) (raw : List String) :
    writeEntries pretty 1 [(.text key, .list (raw.map .text))] =
      .ok (raw.flatMap (itemText pretty key)) := by
  rw [writeEntries, writeEntries]
  simp only [isNode, keyed.isChild_list, keyed.isKeyText_commentKey, keyed.elementName,
    writeElements_texts, bind, Except.bind]
  cases raw with
  | nil => rfl
  | cons s rest => simp [pure, Except.pure]

theorem writeElement_texts (keyed : IsElementName key) (raw : List String) :
    writeElement pretty 0 root.toList (.map [(.text key, .list (raw.map .text))]) =
      .ok (rootText pretty root key raw) := by
  have opening : Opening.withEntries {} [(.text key, .list (raw.map .text))] = .ok {} := by
    simp [Opening.withEntries, keyed.isKeyText_textKey, keyed.attributeKey?_eq_none]
  rw [writeElement, opening, writeEntries_texts pretty keyed]
  simp only [bind, Except.bind, List.any_cons, List.any_nil, Bool.or_false, keyed.isChild_list]
  cases raw with
  | nil => simp [wrapElement, rootText, contentOfTexts, writeAttributes, indentation, pure,
      Except.pure]
  | cons s rest => simp [wrapElement, rootText, contentOfTexts, writeAttributes, indentation, pure,
      Except.pure]

/-- A list of texts in an element of its own is always written. -/
theorem write_texts (rooted : IsElementName root) (keyed : IsElementName key)
    (raw : List String) :
    write pretty [(.text root, .map [(.text key, .list (raw.map .text))])] =
      .ok (String.ofList (documentHead ++ rootText pretty root key raw)) := by
  rw [write, writeRoots, writeRoots, writeEntries, writeEntries]
  · simp [bind, Except.bind, pure, Except.pure, isNode, rooted.isKeyText_commentKey,
      rooted.elementName, writeElement_texts pretty keyed]
  · intro items same
    cases same

end Written

/-! ## What is read -/

/-- What the reader makes of the element for a text. -/
def readItem (s : String) : Value :=
  if trim s = "" then .null else .text (trim s)

/-- What the reader makes of elements that share a name. -/
def gathered (key : String) : List Value → List (Value × Value)
  | [] => []
  | [value] => [(.text key, value)]
  | values => [(.text key, .list values)]

theorem gathered_cons_cons (key : String) (first second : Value) (rest : List Value) :
    gathered key (first :: second :: rest) = [(.text key, .list (first :: second :: rest))] := by
  rfl

/-- What the reader makes of the element around texts. -/
def readTexts (key : String) (raw : List String) : Value :=
  if raw.isEmpty then .null else .map (gathered key (raw.map readItem))

/-- A text is read as nothing or as a text, so that elements are never taken for gathered ones. -/
theorem readItem_ne_list (s : String) (values : List Value) : readItem s ≠ .list values := by
  unfold readItem
  split <;> simp

theorem lookup?_singleton (key : String) (value : Value) :
    Value.lookup? (.text key) [(.text key, value)] = some value := by
  simp [Value.lookup?, Value.sameKey]

theorem insert_singleton (key : String) (old value : Value) :
    Value.insert (.text key) value [(.text key, old)] = [(.text key, value)] := by
  simp [Value.insert, Value.sameKey]

/-- One more element of the name is gathered behind the others. -/
theorem gather_gathered (key : String) {values : List Value} {value : Value}
    (noList : ∀ other ∈ values, ∀ items, other ≠ .list items) :
    gather key value (gathered key values) = gathered key (values ++ [value]) := by
  cases values with
  | nil => simp [gathered, gather, Value.lookup?]
  | cons first others =>
      cases others with
      | nil =>
          -- As the first value is no list, it becomes the first of two.
          have plain := noList first List.mem_cons_self
          simp only [gathered, gather, lookup?_singleton, List.cons_append, List.nil_append]
          rw [insert_singleton]
      | cons second rest =>
          simp [gathered, gather, lookup?_singleton, insert_singleton]

/-- Characters between the elements make no entries. -/
theorem itemEntries_textItems (text : List Char) (items : List Item)
    (entries : List (Value × Value)) :
    itemEntries (textItems text ++ items) entries = itemEntries items entries := by
  induction text with
  | nil => rfl
  | cons c rest ih =>
      rw [textItems, List.map_cons, List.cons_append, itemEntries]
      exact ih

theorem contentText_textItems (text : List Char) (items : List Item) :
    contentText (textItems text ++ items) = text ++ contentText items := by
  induction text with
  | nil => rfl
  | cons c rest ih =>
      rw [textItems, List.map_cons, List.cons_append, contentText, List.cons_append]
      exact congrArg (c :: ·) ih

/-- An element with a text and nothing else is the text without the blanks around it. -/
theorem toValue_textItems (key s : String) :
    (Element.mk key [] (textItems s.toList)).toValue = readItem s := by
  have entries : itemEntries (textItems s.toList) [] = [] := by
    simpa [itemEntries] using itemEntries_textItems s.toList [] []
  have content : contentText (textItems s.toList) = s.toList := by
    simpa [contentText] using contentText_textItems s.toList []
  have trimmed : trim s = "" ↔ trimChars s.toList = [] := by
    rw [← String.toList_inj, toList_trim]
    rfl
  rw [Element.toValue, List.map_nil, entries, content, readItem]
  cases chars : trimChars s.toList with
  | nil => rw [if_pos (trimmed.mpr chars)]
  | cons c rest =>
      have filled : trim s ≠ "" := by
        rw [Ne, trimmed, chars]
        exact List.cons_ne_nil c rest
      rw [if_neg filled, trim, chars]

/-- The items of the elements for texts, with the blanks around them. -/
def itemsOfTexts (pretty : Bool) (key : String) (raw : List String) : List Item :=
  raw.flatMap fun s => textItems (indentation pretty 1) ++
    .element (.mk key [] (textItems s.toList)) :: textItems (lineEnd pretty)

/-- The induction is on the elements still to come; `values` are those gathered so far. -/
theorem itemEntries_itemsOfTexts (pretty : Bool) (key : String) (raw : List String)
    {values : List Value} (noList : ∀ other ∈ values, ∀ items, other ≠ .list items) :
    itemEntries (itemsOfTexts pretty key raw) (gathered key values) =
      gathered key (values ++ raw.map readItem) := by
  induction raw generalizing values with
  | nil => simp [itemsOfTexts, itemEntries]
  | cons s rest ih =>
      have noLists : ∀ other ∈ values ++ [readItem s], ∀ items, other ≠ .list items := by
        intro other member
        rcases List.mem_append.mp member with early | last
        · exact noList other early
        · obtain rfl := List.mem_singleton.mp last
          exact readItem_ne_list s
      rw [itemsOfTexts, List.flatMap_cons, List.append_assoc, itemEntries_textItems,
        List.cons_append, itemEntries, itemEntries_textItems, Element.name, toValue_textItems,
        gather_gathered key noList]
      rw [itemsOfTexts] at ih
      rw [ih noLists, List.map_cons, List.append_assoc]
      rfl

theorem isXmlBlank_of_mem_indentation (pretty : Bool) (depth : Nat) :
    ∀ c ∈ indentation pretty depth, isXmlBlank c = true := by
  intro c member
  cases pretty with
  | false => cases member
  | true =>
      obtain rfl := List.eq_of_mem_replicate member
      decide

theorem isXmlBlank_of_mem_lineEnd (pretty : Bool) :
    ∀ c ∈ lineEnd pretty, isXmlBlank c = true := by
  cases pretty <;> simp [lineEnd, isXmlBlank]

/-- What is blank in XML is blank for trimming. -/
theorem allBlank_of_isXmlBlank {cs : List Char} (blank : ∀ c ∈ cs, isXmlBlank c = true) :
    AllBlank cs := by
  intro c member
  have known : ((c = ' ' ∨ c = '\t') ∨ c = '\n') ∨ c = '\r' := by
    simpa [isXmlBlank] using blank c member
  rcases known with ((rfl | rfl) | rfl) | rfl <;> decide

theorem allBlank_contentText (pretty : Bool) (key : String) (raw : List String) :
    AllBlank (contentText (itemsOfTexts pretty key raw)) := by
  induction raw with
  | nil =>
      intro c member
      cases member
  | cons s rest ih =>
      rw [itemsOfTexts, List.flatMap_cons, List.append_assoc, contentText_textItems,
        List.cons_append, contentText, contentText_textItems]
      intro c member
      rcases List.mem_append.mp member with front | later
      · exact allBlank_of_isXmlBlank (isXmlBlank_of_mem_indentation pretty 1) c front
      · rcases List.mem_append.mp later with lineEnd | others
        · exact allBlank_of_isXmlBlank (isXmlBlank_of_mem_lineEnd pretty) c lineEnd
        · exact ih c others

/-- The blanks between the elements are no text of the element around them. -/
theorem toValue_texts (pretty : Bool) (root key : String) (raw : List String) :
    (Element.mk root [] (textItems (if raw.isEmpty then [] else lineEnd pretty) ++
      itemsOfTexts pretty key raw)).toValue = readTexts key raw := by
  have entries : itemEntries (textItems (if raw.isEmpty then [] else lineEnd pretty) ++
      itemsOfTexts pretty key raw) [] = gathered key (raw.map readItem) := by
    rw [itemEntries_textItems]
    exact itemEntries_itemsOfTexts pretty key raw (List.forall_mem_nil _)
  have blank : trimChars (contentText (textItems (if raw.isEmpty then [] else lineEnd pretty) ++
      itemsOfTexts pretty key raw)) = [] := by
    refine trimChars_of_allBlank ?_
    rw [contentText_textItems]
    intro c member
    rcases List.mem_append.mp member with front | behind
    · cases raw with
      | nil => cases front
      | cons => exact allBlank_of_isXmlBlank (isXmlBlank_of_mem_lineEnd pretty) c front
    · exact allBlank_contentText pretty key raw c behind
  rw [Element.toValue, List.map_nil, entries, blank]
  cases raw with
  | nil => rfl
  | cons s rest =>
      cases rest with
      | nil => rfl
      | cons => rfl

/-! ## Reading what is written -/

section Read

variable {doctype : Doctype} {root key : String} (pretty : Bool) {raw : List String}

/-- The elements for texts are read one by one. -/
theorem contentReads_texts (bare : doctype.attributes = []) (keyed : IsName key)
    (legal : ∀ s ∈ raw, ∀ c ∈ s.toList, isXmlChar c = true) (behind : List Char) :
    ContentReads doctype (raw.flatMap (itemText pretty key) ++ '<' :: '/' :: behind)
      (itemsOfTexts pretty key raw) behind := by
  induction raw with
  | nil => exact .close doctype behind
  | cons s rest ih =>
      obtain ⟨first, others⟩ := List.forall_mem_cons.mp legal
      have later := (ih others).blanks (isXmlBlank_of_mem_lineEnd pretty)
      have content := (ContentReads.close doctype (key.toList ++ '>' :: (lineEnd pretty ++
        (rest.flatMap (itemText pretty key) ++ '<' :: '/' :: behind)))).text first
      rw [List.append_nil] at content
      have element := (content.element bare keyed later).blanks
        (isXmlBlank_of_mem_indentation pretty 1)
      simpa [itemText, itemsOfTexts] using element

theorem contentReads_root (bare : doctype.attributes = []) (keyed : IsName key)
    (legal : ∀ s ∈ raw, ∀ c ∈ s.toList, isXmlChar c = true) (behind : List Char) :
    ContentReads doctype (contentOfTexts pretty key raw ++ '<' :: '/' :: behind)
      (textItems (if raw.isEmpty then [] else lineEnd pretty) ++ itemsOfTexts pretty key raw)
      behind := by
  rw [contentOfTexts, List.append_assoc]
  refine (contentReads_texts pretty bare keyed legal behind).blanks ?_
  cases raw with
  | nil => simp
  | cons => exact isXmlBlank_of_mem_lineEnd pretty

/-! ### Around the element -/

theorem unifyLineFeeds_of_notMem {cs : List Char} (noReturn : '\r' ∉ cs) :
    unifyLineFeeds cs = cs := by
  fun_induction unifyLineFeeds cs with
  | case1 => rfl
  | case2 => simp at noReturn
  | case3 => simp at noReturn
  | case4 c rest _ _ ih => rw [ih fun member => noReturn (List.mem_cons_of_mem c member)]

/-- The content of the declaration that is written. -/
def headContent : List Char :=
  " version=\"1.0\" encoding=\"utf-8\"".toList

theorem readDeclaration_documentHead (cs : List Char) :
    readDeclaration (documentHead ++ cs) = .ok (false, '\n' :: cs) := by
  have written : documentHead ++ cs =
      '<' :: '?' :: 'x' :: 'm' :: 'l' :: (headContent ++ '?' :: '>' :: '\n' :: cs) := by
    rfl
  have instruction :
      takeInstruction ('x' :: 'm' :: 'l' :: (headContent ++ '?' :: '>' :: '\n' :: cs)) =
        .ok ("xml", headContent, '\n' :: cs) := by
    rfl
  have alone : declaresStandalone headContent = .ok false := by
    rfl
  rw [written, readDeclaration]
  simp only [instruction, alone]
  rfl

/-- The prolog ends at the first tag that is no declaration. -/
theorem readProlog_of_element {cs : List Char} (begins : BeginsElement cs) (fuel : Nat)
    (doctype : Doctype) :
    readProlog (fuel + 1) false doctype ('\n' :: '<' :: cs) =
      readElement doctype (2 * cs.length + 2) cs := by
  obtain ⟨-, noDeclaration, noInstruction⟩ := begins
  have blanks : skipBlanks ('\n' :: '<' :: cs) = '<' :: cs := by
    rfl
  rw [readProlog, blanks]
  split
  · simp_all
  · simp_all
  · simp_all
  · next same => rw [(List.cons.inj same).2]
  · next other => exact (other cs rfl).elim

theorem notMem_escaped {text : List Char} (noReturn : '\r' ∉ text) :
    '\r' ∉ text.flatMap escapedText := by
  intro member
  obtain ⟨c, inside, written⟩ := List.mem_flatMap.mp member
  unfold escapedText at written
  split at written
  · simp at written
  · split at written
    · simp at written
    · split at written
      · simp at written
      · obtain rfl := List.mem_singleton.mp written
        exact noReturn inside

theorem IsName.notMem {name : String} (isName : IsName name) : '\r' ∉ name.toList := by
  obtain ⟨c, rest, letters, start, inside⟩ := isName
  rw [letters]
  intro member
  rcases List.mem_cons.mp member with rfl | behind
  · exact absurd start (by decide)
  · exact absurd (inside _ behind) (by decide)

theorem notMem_rootText (rooted : IsName root) (keyed : IsName key)
    (noReturn : ∀ s ∈ raw, '\r' ∉ s.toList) : '\r' ∉ rootText pretty root key raw := by
  have blanks : '\r' ∉ lineEnd pretty ∧ '\r' ∉ indentation pretty 1 := by
    cases pretty <;> decide
  have items : '\r' ∉ raw.flatMap (itemText pretty key) := by
    intro member
    obtain ⟨s, inside, written⟩ := List.mem_flatMap.mp member
    simp [itemText, blanks, keyed.notMem, notMem_escaped (noReturn s inside)] at written
  have content : '\r' ∉ contentOfTexts pretty key raw := by
    intro member
    rcases List.mem_append.mp member with front | written
    · cases raw with
      | nil => cases front
      | cons => exact blanks.1 front
    · exact items written
  simp [rootText, rooted.notMem, content]

/-- The document of a list of texts is read as what the reader makes of these texts. -/
theorem read_texts (rooted : IsName root) (keyed : IsName key)
    (legal : ∀ s ∈ raw, ∀ c ∈ s.toList, isXmlChar c = true)
    (noReturn : ∀ s ∈ raw, '\r' ∉ s.toList) :
    read (String.ofList (documentHead ++ rootText pretty root key raw)) =
      .ok (.map [(.text root, readTexts key raw)]) := by
  have unmarked : dropByteOrderMark (documentHead ++ rootText pretty root key raw) =
      documentHead ++ rootText pretty root key raw := by
    rfl
  have unified : unifyLineFeeds (documentHead ++ rootText pretty root key raw) =
      documentHead ++ rootText pretty root key raw := by
    refine unifyLineFeeds_of_notMem fun member => ?_
    rcases List.mem_append.mp member with head | body
    · exact absurd head (by decide)
    · exact notMem_rootText pretty rooted keyed noReturn body
  have content : ContentReads ⟨[], false, true, false⟩ _ _ _ :=
    contentReads_root pretty rfl keyed legal (root.toList ++ '>' :: [])
  have prolog : ∀ fuel, readProlog (fuel + 1) false ⟨[], false, true, false⟩
      ('\n' :: rootText pretty root key raw) = .ok (.mk root [] (textItems (if raw.isEmpty then []
        else lineEnd pretty) ++ itemsOfTexts pretty key raw), []) := by
    intro fuel
    rw [rootText, List.cons_append, readProlog_of_element (rooted.beginsElement _)]
    simp only [List.append_assoc, List.cons_append] at content ⊢
    exact readElement_of_content rfl rooted content (by simp; omega)
  rw [read, readDocument, String.toList_ofList, unmarked, unified, readDeclaration_documentHead]
  simp only [bind, Except.bind, prolog]
  rw [← toValue_texts pretty root]
  rfl

end Read

end PathExpr.Format.Xml

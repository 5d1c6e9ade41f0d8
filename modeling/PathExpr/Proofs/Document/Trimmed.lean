import PathExpr.Proofs.Document.RoundTrip
import PathExpr.Proofs.Format.Reading
import PathExpr.Proofs.Format.Xml.Texts

/-!
# What XML documents keep

A raw sequence can be written as XML whatever is in it, and of legal characters
but returns the reader gets every one back.  It then trims the texts, and of a
blank text it keeps nothing.  So a sequence survives its XML document exactly if
there is nothing to trim and no text is empty, although the document of no text
holds nothing, that of one text holds a text, and only that of more texts holds a
list.
-/

namespace PathExpr

open PathExpr.Format PathExpr.Text

namespace RawSequence

theorem isElementName_element : Xml.IsElementName element where
  isName := ⟨'e', ['n', 'v', 'p', 'a', 't', 'h'], rfl, by decide, List.all_eq_true.mp rfl⟩
  flawless := by decide

theorem isElementName_key : Xml.IsElementName key where
  isName := ⟨'p', ['a', 't', 'h'], rfl, by decide, List.all_eq_true.mp rfl⟩
  flawless := by decide

/-- The element with the sequence in it. -/
theorem portable_element (raw : List String) :
    Json.Portable (.map [(.text element, .map [(.text key, toValue raw)])]) := by
  have entry : Json.Portable (.map ([(key, toValue raw)].map Json.entryOf)) :=
    .map (by simp) (List.forall_mem_singleton.mpr (portable_toValue raw))
  have around : Json.Portable (.map ([(element, Value.map ([(key, toValue raw)].map
      Json.entryOf))].map Json.entryOf)) :=
    .map (by simp) (List.forall_mem_singleton.mpr entry)
  exact around

theorem write_xml (raw : List String) (pretty : Bool) :
    write raw (some "xml") pretty =
      .ok (String.ofList (Xml.documentHead ++ Xml.rootText pretty element key raw)) := by
  have name : lower ((some "xml").getD "") = "xml" := by
    decide
  have known : DocumentFormat.ofWord? "xml" = some .xml := by
    decide
  simp only [write, name, known, document]
  rw [Document.write_of_named (portable_element raw).isEndless
    (by decide : _ = some DocumentFormat.xml), (portable_element raw).plain, Document.writeAs]
  exact Xml.write_texts pretty isElementName_element isElementName_key raw

/-- What an XML document of a sequence holds. -/
theorem document_read_xml {raw : List String} {pretty : Bool}
    (legal : ∀ s ∈ raw, ∀ c ∈ s.toList, Xml.isXmlChar c = true ∧ c ≠ '\r') {data : Value}
    (form : data ∈ formsOf
      (String.ofList (Xml.documentHead ++ Xml.rootText pretty element key raw))) :
    Document.read data (some "xml") =
      .ok (.map [(.text element, Xml.readTexts key raw)]) := by
  have parsed := Xml.read_texts pretty isElementName_element.isName isElementName_key.isName
    (fun s member c inside => (legal s member c inside).1)
    (fun s member inside => (legal s member '\r' inside).2 rfl)
  rw [Document.read, Document.textOf_of_mem_formsOf form]
  simp only [bind, Except.bind, show ∀ s, Document.formatFor? (some "xml") s = some .xml from
    fun _ => rfl, Document.readAs, parsed]
  rfl

/-! ## What is kept -/

theorem readItem_eq_text_iff {s t : String} :
    Xml.readItem s = .text t ↔ trim s ≠ "" ∧ trim s = t := by
  unfold Xml.readItem
  split
  · next empty => simp [empty]
  · next filled => simp [filled]

theorem readItem_eq_self_iff {s : String} :
    Xml.readItem s = .text s ↔ s ≠ "" ∧ trim s = s := by
  rw [readItem_eq_text_iff]
  constructor
  · rintro ⟨filled, same⟩
    exact ⟨same ▸ filled, same⟩
  · rintro ⟨filled, same⟩
    exact ⟨by rwa [same], same⟩

/-- A mapping under the only key is searched in turn. -/
theorem ofDocument_entry_map (name : Value) (entries : List (Value × Value)) :
    ofDocument (.map [(name, .map entries)]) = ofDocument (.map entries) :=
  ofDocument_entry name (fun _ same => by cases same) (fun same => by cases same)

theorem ofDocument_entry_list {name : Value} {items : List Value} {raw : List String} :
    ofDocument (.map [(name, .list items)]) = .ok raw ↔ items = raw.map .text := by
  rw [ofDocument_entry name (fun _ same => by cases same) (fun same => by cases same)]
  exact ofDocument_list_eq_ok_iff

theorem ofDocument_entry_item {name : Value} {s : String} :
    ofDocument (.map [(name, Xml.readItem s)]) = .ok [s] ↔ Xml.readItem s = .text s := by
  cases blank : decide (trim s = "") with
  | true =>
      have empty := of_decide_eq_true blank
      have none : Xml.readItem s = .null := by
        rw [Xml.readItem, if_pos empty]
      rw [none, ofDocument]
      simp
  | false =>
      have filled := of_decide_eq_false blank
      have kept : Xml.readItem s = .text (trim s) := by
        rw [Xml.readItem, if_neg filled]
      rw [kept, ofDocument]
      simp

/-- Nothing, one text and a list of texts are all sequences, if each text is kept. -/
theorem ofDocument_readTexts_iff {raw : List String} :
    ofDocument (.map [(.text element, Xml.readTexts key raw)]) = .ok raw ↔
      ∀ s ∈ raw, s ≠ "" ∧ trim s = s := by
  have kept : raw.map Xml.readItem = raw.map .text ↔ ∀ s ∈ raw, s ≠ "" ∧ trim s = s := by
    rw [List.map_inj_left]
    exact forall₂_congr fun s _ => readItem_eq_self_iff
  cases raw with
  | nil =>
      rw [Xml.readTexts, List.isEmpty_nil, if_pos rfl, ofDocument]
      simp
  | cons s rest =>
      rw [Xml.readTexts, if_neg (by simp), List.map_cons]
      cases rest with
      | nil =>
          rw [List.map_nil, Xml.gathered, ofDocument_entry_map, ofDocument_entry_item,
            readItem_eq_self_iff]
          simp
      | cons t others =>
          rw [← kept, List.map_cons, Xml.gathered_cons_cons, ofDocument_entry_map,
            ofDocument_entry_list]
          rfl

end RawSequence

namespace PathSpec

/-- A specification that is loaded has the sequence that the document holds. -/
theorem read_of_load {world : World} {config : Config} {providers : World → Providers}
    {data : Value} {format : Option String} {spec : PathSpec}
    (loaded : (load world config providers data format).outcome = .ok spec) :
    RawSequence.read data format = .ok spec.raw := by
  cases found : RawSequence.read data format with
  | error fault =>
      rw [load, found] at loaded
      cases loaded
  | ok raw =>
      rw [load_of_read found, resolve, Traced.outcome_bind] at loaded
      obtain ⟨path, -, same⟩ := exists_of_bind_eq_ok loaded
      cases same
      rfl

end PathSpec

theorem legal_of_all {raw : List String}
    (all : (raw.all fun s => s.toList.all fun c => Xml.isXmlChar c && c != '\r') = true) :
    ∀ s ∈ raw, ∀ c ∈ s.toList, Xml.isXmlChar c = true ∧ c ≠ '\r' := by
  simpa only [List.all_eq_true, Bool.and_eq_true, bne_iff_ne] using all

/--
A raw sequence without illegal characters and returns can be written as XML.  Its
document holds nothing, one text or a list, depending on how many texts there
are, each of them trimmed, and nothing for a blank one.  The sequence is read from
it, and loaded where it can be resolved, exactly if no text is empty and there is
nothing to trim.
-/
theorem xml_round_trip_iff (pretty : Bool) {raw : List String}
    (legal : ∀ s ∈ raw, ∀ c ∈ s.toList, Xml.isXmlChar c = true ∧ c ≠ '\r') :
    ∃ s, RawSequence.write raw (some "xml") pretty = .ok s ∧ ∀ data ∈ formsOf s,
      Document.read data (some "xml") =
        .ok (.map [(.text RawSequence.element, Xml.readTexts RawSequence.key raw)]) ∧
      (RawSequence.read data (some "xml") = .ok raw ↔ ∀ s ∈ raw, s ≠ "" ∧ trim s = s) ∧
      ∀ world config providers,
        (∃ path, (((PathSpec.ofRaw raw config providers).resolver world).pathOf raw).outcome =
          .ok path) →
        ((∃ spec, (PathSpec.load world config providers data (some "xml")).outcome = .ok spec ∧
          spec.raw = raw) ↔ ∀ s ∈ raw, s ≠ "" ∧ trim s = s) := by
  refine ⟨_, RawSequence.write_xml raw pretty, ?_⟩
  intro data form
  have holds := RawSequence.document_read_xml legal form
  have kept : RawSequence.read data (some "xml") = .ok raw ↔ ∀ s ∈ raw, s ≠ "" ∧ trim s = s := by
    rw [RawSequence.read, holds]
    exact RawSequence.ofDocument_readTexts_iff
  refine ⟨holds, kept, ?_⟩
  rintro world config providers ⟨path, resolved⟩
  rw [← kept]
  constructor
  · rintro ⟨spec, loaded, rfl⟩
    exact PathSpec.read_of_load loaded
  · intro found
    have loads : PathSpec.load world config providers data (some "xml") =
        (PathSpec.ofRaw raw config providers).resolve world :=
      PathSpec.load_of_read found config providers
    rw [loads]
    exact ⟨_, PathSpec.resolve_of_pathOf resolved, rfl⟩

/-- Marks of sections and references come back; a text with a blank in front does not. -/
theorem xml_round_trip_of_marks :
    let world : World :=
      ⟨[], [], [], none, [], "linux", "posix", false, "x86_64", "/tmp", true, fun _ => 0,
        fun _ _ => false⟩
    let raw := ["a]]>b", "&amp; <c>"]
    let blank := ["d", " e"]
    (∀ s ∈ raw, ∀ c ∈ s.toList, Xml.isXmlChar c = true ∧ c ≠ '\r') ∧
      (∀ s ∈ blank, ∀ c ∈ s.toList, Xml.isXmlChar c = true ∧ c ≠ '\r') ∧
      (∃ s spec, RawSequence.write raw (some "xml") true = .ok s ∧
        (PathSpec.load world .default (.builtIn · .default) (.text s) (some "xml")).outcome =
          .ok spec ∧ spec.raw = raw) ∧
      ∃ s, RawSequence.write blank (some "xml") true = .ok s ∧
        RawSequence.read (.text s) (some "xml") ≠ .ok blank := by
  intro world raw blank
  have legal : ∀ s ∈ raw, ∀ c ∈ s.toList, Xml.isXmlChar c = true ∧ c ≠ '\r' :=
    legal_of_all rfl
  have legalBlank : ∀ s ∈ blank, ∀ c ∈ s.toList, Xml.isXmlChar c = true ∧ c ≠ '\r' :=
    legal_of_all rfl
  obtain ⟨s, written, reads⟩ := xml_round_trip_iff true legal
  obtain ⟨-, -, loads⟩ := reads (.text s) List.mem_cons_self
  obtain ⟨spec, loaded, same⟩ :=
    (loads world .default (.builtIn · .default) ⟨some ⟨.relative, raw⟩, rfl⟩).mpr (by decide)
  obtain ⟨t, writtenBlank, readsBlank⟩ := xml_round_trip_iff true legalBlank
  obtain ⟨-, kept, -⟩ := readsBlank (.text t) List.mem_cons_self
  refine ⟨legal, legalBlank, ⟨s, spec, written, loaded, same⟩, t, writtenBlank, fun found => ?_⟩
  exact absurd (kept.mp found) (by decide)

end PathExpr

import PathExpr.Proofs.Document.RoundTrip
import PathExpr.Proofs.Format.Toml.Entries
import PathExpr.Proofs.Format.Yaml.Graphs
import PathExpr.Proofs.Session.RawValue

/-!
# What YAML and TOML documents lose

A raw sequence is read back from its YAML document with each text as the folding
of its line ends leaves it, and from its TOML document only if the writer has
met no mark of a two-digit escape in it.
-/

namespace PathExpr

open PathExpr.Format PathExpr.Text

namespace RawSequence

/-- What a document of a named format holds. -/
theorem read_of_named {name s : String} {format : DocumentFormat} {data : Value}
    (form : data ∈ formsOf s) (named : Document.formatFor? (some name) s = some format) :
    read data (some name) = Document.readAs s format >>= ofDocument := by
  rw [read, Document.read, Document.textOf_of_mem_formsOf form]
  simp only [bind, Except.bind, named]

/-! ## YAML -/

theorem write_yaml (raw : List String) (pretty : Bool) :
    write raw (some "yaml") pretty = .ok (String.ofList (Yaml.listText raw)) := by
  have name : lower ((some "yaml").getD "") = "yaml" := by
    decide
  have known : DocumentFormat.ofWord? "yaml" = some .yaml := by
    decide
  simp only [write, name, known, document]
  rw [Document.write_of_named (portable_toValue raw).isEndless
    (by decide : _ = some DocumentFormat.yaml), (portable_toValue raw).plain, Document.writeAs]
  exact Yaml.write_texts raw

/-- Each text is read from a YAML document as its line ends are folded. -/
theorem read_yaml (raw : List String) {data : Value}
    (form : data ∈ formsOf (String.ofList (Yaml.listText raw))) :
    read data (some "yaml") = .ok (raw.map fun s => String.ofList (Yaml.readBack s.toList)) := by
  have value : Value.list (raw.map fun s => .text (String.ofList (Yaml.readBack s.toList))) =
      toValue (raw.map fun s => String.ofList (Yaml.readBack s.toList)) := by
    rw [toValue, List.map_map]
    rfl
  rw [read_of_named form (by rfl : _ = some DocumentFormat.yaml), Document.readAs,
    Yaml.read_listText, value]
  exact ofDocument_toValue _

/-! ## TOML -/

/-- The table with the sequence in it. -/
theorem portable_table (raw : List String) : Json.Portable (.map [(.text key, toValue raw)]) := by
  have entry : Json.Portable (.map ([(key, toValue raw)].map Json.entryOf)) :=
    .map (by simp) (List.forall_mem_singleton.mpr (portable_toValue raw))
  exact entry

theorem write_toml (raw : List String) (pretty : Bool) :
    write raw (some "toml") pretty = Toml.write [(.text key, toValue raw)] := by
  have name : lower ((some "toml").getD "") = "toml" := by
    decide
  have known : DocumentFormat.ofWord? "toml" = some .toml := by
    decide
  simp only [write, name, known, document]
  rw [Document.write_of_named (portable_table raw).isEndless
    (by decide : _ = some DocumentFormat.toml), (portable_table raw).plain, Document.writeAs]

theorem read_toml_of_isWritable {raw : List String} (writable : ∀ s ∈ raw, Toml.IsWritable s.toList)
    {data : Value} (form : data ∈ formsOf
      (String.ofList (Toml.entryText (raw.map fun s => Toml.escaped s.toList)))) :
    read data (some "toml") = .ok raw := by
  rw [read_of_named form (by rfl : _ = some DocumentFormat.toml), Document.readAs,
    Toml.read_of_isWritable writable]
  exact ofDocument_toValue raw

theorem isWritable_of_read_toml {raw : List String} {bodies : List (List Char)}
    (written : Toml.Written raw bodies) {data : Value}
    (form : data ∈ formsOf (String.ofList (Toml.entryText bodies)))
    (found : read data (some "toml") = .ok raw) : ∀ s ∈ raw, Toml.IsWritable s.toList := by
  rw [read_of_named form (by rfl : _ = some DocumentFormat.toml), Document.readAs] at found
  cases parsed : Toml.read (String.ofList (Toml.entryText bodies)) with
  | error why =>
      rw [parsed] at found
      cases why <;> cases found
  | ok value =>
      rw [parsed] at found
      obtain ⟨fuel, items, rest, others, array, rfl⟩ := Toml.exists_of_read written.noReturn parsed
      obtain rfl := items_of_ofDocument found
      exact Toml.isWritable_of_readItems written array

end RawSequence

/--
The document of a sequence gives back the sequence, and a specification where it
can be resolved.
-/
def RoundTrips (format : String) (pretty : Bool) (raw : List String) : Prop :=
  ∃ s, RawSequence.write raw (some format) pretty = .ok s ∧ ∀ data ∈ formsOf s,
    RawSequence.read data (some format) = .ok raw ∧
    ∀ world config providers,
      (∃ path, (((PathSpec.ofRaw raw config providers).resolver world).pathOf raw).outcome =
        .ok path) →
      ∃ spec, (PathSpec.load world config providers data (some format)).outcome = .ok spec ∧
        spec.raw = raw

theorem roundTrips_iff {format : String} {pretty : Bool} {raw : List String} :
    RoundTrips format pretty raw ↔ ∃ s, RawSequence.write raw (some format) pretty = .ok s ∧
      ∀ data ∈ formsOf s, RawSequence.read data (some format) = .ok raw := by
  constructor
  · rintro ⟨s, written, reads⟩
    exact ⟨s, written, fun data form => (reads data form).1⟩
  · rintro ⟨s, written, reads⟩
    refine ⟨s, written, fun data form => ⟨reads data form, ?_⟩⟩
    rintro world config providers ⟨path, resolved⟩
    rw [PathSpec.load_of_read (reads data form)]
    exact ⟨_, PathSpec.resolve_of_pathOf resolved, rfl⟩

/-- A sequence survives its YAML document exactly if folding the line ends changes no text. -/
theorem roundTrips_yaml_iff (pretty : Bool) (raw : List String) :
    RoundTrips "yaml" pretty raw ↔
      ∀ s ∈ raw, '\x85' ∈ s.toList → Yaml.allowsSingleQuotes s.toList = false := by
  let folded : String → String := fun s => String.ofList (Yaml.readBack s.toList)
  have each : ∀ s : String, folded s = id s ↔
      ('\x85' ∈ s.toList → Yaml.allowsSingleQuotes s.toList = false) := by
    intro s
    rw [← Yaml.readBack_eq_iff, ← String.toList_inj, String.toList_ofList, id]
  have kept : raw.map folded = raw ↔
      ∀ s ∈ raw, '\x85' ∈ s.toList → Yaml.allowsSingleQuotes s.toList = false :=
    calc raw.map folded = raw ↔ raw.map folded = raw.map id := by rw [List.map_id]
      _ ↔ ∀ s ∈ raw, folded s = id s := List.map_inj_left
      _ ↔ _ := forall₂_congr fun s _ => each s
  have document := RawSequence.write_yaml raw pretty
  rw [roundTrips_iff, ← kept]
  constructor
  · rintro ⟨s, written, reads⟩
    obtain rfl : String.ofList (Yaml.listText raw) = s :=
      Except.ok.inj (document.symm.trans written)
    have own := reads _ List.mem_cons_self
    have foldedBack := RawSequence.read_yaml raw List.mem_cons_self
    exact Except.ok.inj (foldedBack.symm.trans own)
  · intro same
    refine ⟨String.ofList (Yaml.listText raw), document, ?_⟩
    intro data form
    have foldedBack := RawSequence.read_yaml raw form
    exact foldedBack.trans (congrArg Except.ok same)

/-- A sequence survives its TOML document exactly if the writer meets no mark of an escape. -/
theorem roundTrips_toml_iff (pretty : Bool) (raw : List String) :
    RoundTrips "toml" pretty raw ↔ ∀ s ∈ raw, Toml.IsWritable s.toList := by
  rw [roundTrips_iff, RawSequence.write_toml]
  constructor
  · rintro ⟨s, written, reads⟩
    obtain ⟨bodies, all, rfl⟩ := Toml.write_eq_ok.mp written
    have own := reads _ List.mem_cons_self
    exact RawSequence.isWritable_of_read_toml all List.mem_cons_self own
  · intro writable
    have escaped : Toml.Written raw (raw.map fun s => Toml.escaped s.toList) :=
      Toml.written_of_isWritable writable
    refine ⟨_, Toml.write_eq_ok.mpr ⟨_, escaped, rfl⟩, ?_⟩
    intro data form
    exact RawSequence.read_toml_of_isWritable writable form

/--
A raw sequence survives its YAML document exactly if no next-line character
stands in a text that may be written between single quotes, where this character
is read as a line feed and folded.  It survives its TOML document exactly if in no
text a backslash stands before the letter x and no character is written as two
hexadecimal digits: in such a text the writer replaces the marks of these escapes,
and what it writes is another text or no document, if it writes at all.
-/
theorem roundTrips_yaml_toml_iff (pretty : Bool) (raw : List String) :
    (RoundTrips "yaml" pretty raw ↔
      ∀ s ∈ raw, '\x85' ∈ s.toList → Yaml.allowsSingleQuotes s.toList = false) ∧
    (RoundTrips "toml" pretty raw ↔ ∀ s ∈ raw, Toml.IsWritable s.toList) := by
  constructor
  · exact roundTrips_yaml_iff pretty raw
  · exact roundTrips_toml_iff pretty raw

/--
A next-line character is folded to a space, two digits become a letter, and what
is left of a character without its mark is no text.
-/
theorem not_roundTrips_of_marks :
    ¬ RoundTrips "yaml" true ["a\x85b"] ∧ ¬ RoundTrips "toml" true ["\\x41"] ∧
      ¬ RoundTrips "toml" true ["\x01"] := by
  have folded : RawSequence.read (.text (String.ofList (Yaml.listText ["a\x85b"]))) (some "yaml") =
      .ok ["a b"] := by
    rw [RawSequence.read_yaml _ List.mem_cons_self]
    rfl
  have letter : Toml.Written ["\\x41"] [['\\', 'u', '0', '0', '4', '1']] := by
    refine .cons ?_ .nil
    rw [Toml.basicBody_eq]
    rfl
  have digits : RawSequence.read (.text (String.ofList
      (Toml.entryText [['\\', 'u', '0', '0', '4', '1']]))) (some "toml") = .ok ["A"] := by
    rw [RawSequence.read_of_named List.mem_cons_self (by rfl : _ = some DocumentFormat.toml),
      Document.readAs, Toml.read, String.toList_ofList]
    rfl
  have alone : Toml.basicBody "\x01" = .error .escapeUnfinished := by
    rw [Toml.basicBody_eq]
    rfl
  refine ⟨?_, ?_, ?_⟩
  · rintro ⟨s, written, reads⟩
    obtain rfl := Except.ok.inj ((RawSequence.write_yaml _ _).symm.trans written)
    have kept := (reads _ List.mem_cons_self).1.symm.trans folded
    exact absurd (Except.ok.inj kept) (by decide)
  · rintro ⟨s, written, reads⟩
    rw [RawSequence.write_toml, RawSequence.toValue, ← Toml.entryName,
      Toml.write_eq_ok.mpr ⟨_, letter, rfl⟩] at written
    obtain rfl := Except.ok.inj written
    have kept := (reads _ List.mem_cons_self).1.symm.trans digits
    exact absurd (Except.ok.inj kept) (by decide)
  · rintro ⟨s, written, -⟩
    rw [RawSequence.write_toml, RawSequence.toValue, ← Toml.entryName] at written
    obtain ⟨bodies, all, -⟩ := Toml.write_eq_ok.mp written
    cases all with
    | cons known _ => cases alone.symm.trans known

end PathExpr

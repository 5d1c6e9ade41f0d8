import PathExpr.CommandLine.Run
import PathExpr.Proofs.Format.Json.Nested
import PathExpr.Proofs.Session.RawValue
import PathExpr.Proofs.Text.Trim
import PathExpr.Proofs.Text.Utf8

/-!
# JSON documents are read back

A portable value that is written as a JSON document is read back as this value,
from the text and from its bytes, and no other format is ever tried.  A raw
sequence is written as a list, and a text that starts with a bracket is taken
for JSON also where no format is named.  So a specification is found in the
document of its raw sequence, and what the command prints for its raw arguments
holds exactly these.
-/

namespace PathExpr

open PathExpr.Format PathExpr.Text

/-- The values that a text is handed over as: the text itself, and its bytes. -/
def formsOf (s : String) : List Value :=
  [.text s, .bytes (encodeUtf8 s), .byteArray (encodeUtf8 s)]

namespace Document

theorem textOf_of_mem_formsOf {s : String} {data : Value} (form : data ∈ formsOf s) :
    textOf data = .ok s := by
  simp only [formsOf, List.mem_cons, List.not_mem_nil, or_false] at form
  rcases form with rfl | rfl | rfl
  · rfl
  · rw [textOf, decodeLenient_encodeUtf8]
  · rw [textOf, decodeLenient_encodeUtf8]

/-- A value that comes to an end is written in the format that is named. -/
theorem write_of_named {value : Value} (ends : value.isEndless = false) {name : String}
    {format : DocumentFormat} (named : DocumentFormat.ofWord? (lower name) = some format)
    (pretty : Bool) (root : String) :
    write value (some name) pretty root = writeAs value.plain pretty root format := by
  rw [write, ends, Option.getD_some, named]
  rfl

theorem write_json {value : Value} (portable : Json.Portable value) (pretty : Bool)
    (root : String) : write value (some "json") pretty root = Json.write pretty value := by
  rw [write_of_named portable.isEndless (by decide : _ = some DocumentFormat.json),
    portable.plain, writeAs]

/-- What is JSON is read as such, where the format is named or suggested. -/
theorem read_of_json {s : String} {value : Value} (json : Json.read s = .ok value)
    {data : Value} (form : data ∈ formsOf s) {format : Option String}
    (taken : formatFor? format s = some .json) : read data format = .ok value := by
  rw [read, textOf_of_mem_formsOf form]
  simp only [bind, Except.bind, taken, readAs, json]
  rfl

/-- A text that starts with a bracket is taken for JSON, unless another format is named. -/
theorem formatFor?_of_bracket (rest : List Char) {format : Option String}
    (named : format ∈ [none, some "json"]) :
    formatFor? format (String.ofList ('[' :: rest)) = some .json := by
  simp only [List.mem_cons, List.not_mem_nil, or_false] at named
  rcases named with rfl | rfl
  · simp [formatFor?, DocumentFormat.detect?, trimStart, isBlank]
  · rfl

end Document

/-! ## Raw sequences -/

namespace Format.Json

theorem writeValue_list_shape {pretty : Bool} {level : Nat} {items : List Value}
    {body : List Char} (written : writeValue pretty level (.list items) = .ok body) :
    ∃ inner, body = '[' :: inner ++ [']'] := by
  cases items with
  | nil =>
      rw [writeValue] at written
      cases written
      exact ⟨[], rfl⟩
  | cons item items =>
      rw [writeValue] at written
      cases first : writeValue pretty (level + 1) item with
      | error fault =>
          rw [first] at written
          cases written
      | ok head =>
          cases others : writeItems pretty (level + 1) items with
          | error fault =>
              rw [first, others] at written
              cases written
          | ok tail =>
              rw [first, others] at written
              cases written
              exact ⟨_, rfl⟩

end Format.Json

namespace RawSequence

theorem portable_toValue (raw : List String) : Json.Portable (toValue raw) := by
  refine .list fun item member => ?_
  obtain ⟨s, -, rfl⟩ := List.mem_map.mp member
  exact .text s

/-- A list of texts is the sequence of these texts, and nothing else is a sequence by itself. -/
theorem ofList_eq_ok_iff {value : Value} {texts : List String} :
    ofList value = .ok texts ↔ value.opened = .list (texts.map .text) := by
  unfold ofList
  split
  · next items layer =>
      rw [layer, Value.list.injEq, ← Value.texts?_eq_some_iff]
      cases Value.texts? items with
      | none => exact ⟨nofun, nofun⟩
      | some found => exact ⟨fun same => congrArg some (Except.ok.inj same),
          fun same => congrArg Except.ok (Option.some.inj same)⟩
  · next noList => exact ⟨nofun, fun layer => (noList _ layer).elim⟩

theorem ofDocument_list_eq_ok_iff {items : List Value} {texts : List String} :
    ofDocument (.list items) = .ok texts ↔ items = texts.map .text := by
  have whole : ofDocument (.list items) = ofList (.list items) := by
    rw [ofDocument] <;> nofun
  have layer : (Value.list items).opened = .list items := by
    rw [Value.opened]
    nofun
  rw [whole, ofList_eq_ok_iff, layer, Value.list.injEq]

theorem ofDocument_toValue (raw : List String) : ofDocument (toValue raw) = .ok raw :=
  ofDocument_list_eq_ok_iff.mpr rfl

/-- A mapping with one entry is searched in the entry, which is no text and not nothing. -/
theorem ofDocument_entry (key : Value) {inner : Value} (noText : ∀ s, inner ≠ .text s)
    (noNull : inner ≠ .null) : ofDocument (.map [(key, inner)]) = ofDocument inner := by
  rw [ofDocument]
  · exact noText
  · exact noNull

/-- The sequence under one key is that of its only entry. -/
theorem items_of_ofDocument {name : Value} {items : List Value} {others : List (Value × Value)}
    {raw : List String} (holds : ofDocument (.map ((name, .list items) :: others)) = .ok raw) :
    items = raw.map .text := by
  cases others with
  | cons other others => cases holds
  | nil =>
      rw [ofDocument_entry name (fun _ same => by cases same) (fun same => by cases same)] at holds
      exact ofDocument_list_eq_ok_iff.mp holds

theorem write_json (raw : List String) (pretty : Bool) :
    write raw (some "json") pretty = Json.write pretty (toValue raw) := by
  have name : lower ((some "json").getD "") = "json" := by
    decide
  have known : DocumentFormat.ofWord? "json" = some .json := by
    decide
  simp only [write, name, known, document]
  exact Document.write_json (portable_toValue raw) pretty plainElement

/-- A written sequence stands between brackets, and is read as it was, with a gap behind it too. -/
theorem exists_write_json (raw : List String) (pretty : Bool) :
    ∃ inner, write raw (some "json") pretty = .ok (String.ofList ('[' :: inner ++ [']'])) ∧
      ∀ gap, Json.Gap gap →
        Json.read (String.ofList ('[' :: inner ++ [']'] ++ gap)) = .ok (toValue raw) := by
  obtain ⟨body, written, reads⟩ := (portable_toValue raw).writeValue pretty 0
  obtain ⟨inner, rfl⟩ := Json.writeValue_list_shape written
  refine ⟨inner, ?_, fun gap blank => reads.read blank⟩
  rw [write_json, Json.write, written]
  rfl

/-- A sequence in brackets is found, where JSON is named and where no format is. -/
theorem read_of_json {raw : List String} {rest : List Char}
    (json : Json.read (String.ofList ('[' :: rest)) = .ok (toValue raw)) {data : Value}
    (form : data ∈ formsOf (String.ofList ('[' :: rest))) {format : Option String}
    (named : format ∈ [none, some "json"]) : read data format = .ok raw := by
  rw [read, Document.read_of_json json form (Document.formatFor?_of_bracket rest named)]
  exact ofDocument_toValue raw

end RawSequence

namespace PathSpec

variable {world : World}

theorem resolve_of_pathOf {spec : PathSpec} {path : Option Path}
    (found : ((spec.resolver world).pathOf spec.raw).outcome = .ok path) :
    (spec.resolve world).outcome = .ok { spec with path } := by
  rw [resolve, Traced.bind_of_ok found]
  rfl

/-- A specification is loaded by resolving the sequence that the document holds. -/
theorem load_of_read {data : Value} {format : Option String} {raw : List String}
    (read : RawSequence.read data format = .ok raw) (config : Config)
    (providers : World → Providers) :
    load world config providers data format = (ofRaw raw config providers).resolve world := by
  rw [load, read]
  exact Traced.pure_bind raw _

end PathSpec

/-! ## The command -/

namespace CommandLine

theorem gather_plain (settings : Settings) (unrecognized raw : List String) :
    gather ⟨settings, .running, unrecognized⟩ (raw.map .plain) =
      .ok ⟨{ settings with raw := settings.raw ++ raw }, .running, unrecognized⟩ := by
  induction raw generalizing settings with
  | nil => simp [gather]
  | cons word raw ih =>
      rw [List.map_cons, gather, Gathered.plain, ih]
      · simp
      · intro same
        cases same

/-- The arguments that ask for the document of a raw sequence, whatever is in it. -/
theorem ofArguments_document (raw : List String) :
    Settings.ofArguments ("--format" :: "json" :: endMark :: raw) =
      .ok { raw, format := some .json } := by
  have words : wordsOf ("--format" :: "json" :: endMark :: raw) =
      .ok (.option .format false none :: .plain "json" :: .mark :: raw.map .plain) := by
    have switch : Word.ofArgument "--format" = .ok (.option .format false none) := by
      rfl
    have value : Word.ofArgument "json" = .ok (.plain "json") := by
      rfl
    rw [wordsOf, if_neg (by decide), switch, wordsOf, if_neg (by decide), value, wordsOf,
      if_pos rfl]
    rfl
  have gathered : gather {} (.option .format false none :: .plain "json" :: .mark ::
      raw.map .plain) = gather ⟨{ format := some .json }, .running, []⟩ (raw.map .plain) := by
    rfl
  rw [Settings.ofArguments, words]
  simp only [gathered, gather_plain]
  rfl

/-- The document that is printed for a raw sequence holds this sequence. -/
theorem printDocument_json (level : Int) (raw : List String) :
    ∃ report, printDocument level raw .json = .ok report ∧ report.status = 0 ∧
      report.errors = "" ∧ ∀ format ∈ [none, some "json"],
        RawSequence.read (.text report.output) format = .ok raw := by
  obtain ⟨inner, written, reads⟩ := RawSequence.exists_write_json raw true
  have text : RawSequence.write raw (some DocumentFormat.json.word) true =
      .ok (String.ofList ('[' :: inner ++ [']'])) := written
  refine ⟨⟨0, String.ofList ('[' :: inner ++ [']']) ++ "\n", "", level⟩, ?_, rfl, rfl, ?_⟩
  · rw [printDocument, text]
    simp only [bind, Except.bind, String.toList_ofList]
    rw [dropEndWhile_eq, List.rdropWhile_concat_neg _ _ _ (by decide)]
    rfl
  · intro format named
    have output : String.ofList ('[' :: inner ++ [']']) ++ "\n" =
        String.ofList ('[' :: (inner ++ [']'] ++ ['\n'])) := by
      rw [← String.toList_inj]
      simp
    rw [output]
    exact RawSequence.read_of_json (reads _ (Json.gap_singleton rfl)) List.mem_cons_self named

/-- The command prints the document where its settings ask for one. -/
theorem outcome_run_document {world : World} {arguments : List String} {settings : Settings}
    {format : DocumentFormat} {config : Config}
    (given : Settings.ofArguments arguments = .ok settings)
    (asked : settings.format = some format) (loaded : configOf world settings = .ok config) :
    ∃ level, (run world arguments).outcome = printDocument level settings.raw format := by
  rw [run, given]
  simp only [act, loaded, asked]
  exact ⟨_, rfl⟩

end CommandLine

/--
JSON loses nothing: a portable value is read back from the document written for
it.  The document of a raw sequence gives back the sequence and, where it can be
resolved, a specification with it, from its text and from its bytes, and with
JSON named as well as without a format.  So does what the command prints for the
raw sequence in its arguments, and there are arguments for any raw sequence.
-/
theorem json_round_trip (pretty : Bool) :
    (∀ value, Json.Portable value → ∀ root, ∃ s,
      Document.write value (some "json") pretty root = .ok s ∧
      ∀ data ∈ formsOf s, Document.read data (some "json") = .ok value) ∧
    (∀ raw, ∃ s, RawSequence.write raw (some "json") pretty = .ok s ∧
      ∀ data ∈ formsOf s, ∀ format ∈ [none, some "json"],
        RawSequence.read data format = .ok raw ∧
        ∀ world config providers,
          (∃ path, (((PathSpec.ofRaw raw config providers).resolver world).pathOf raw).outcome =
            .ok path) →
          ∃ spec, (PathSpec.load world config providers data format).outcome = .ok spec ∧
            spec.raw = raw) ∧
    (∀ world arguments settings config,
      CommandLine.Settings.ofArguments arguments = .ok settings →
      settings.format = some .json → CommandLine.configOf world settings = .ok config →
      ∃ report, (CommandLine.run world arguments).outcome = .ok report ∧ report.status = 0 ∧
        report.errors = "" ∧ ∀ format ∈ [none, some "json"],
          RawSequence.read (.text report.output) format = .ok settings.raw) ∧
    (∀ raw, CommandLine.Settings.ofArguments ("--format" :: "json" :: "--" :: raw) =
      .ok { raw, format := some .json }) := by
  refine ⟨?_, ?_, ?_, CommandLine.ofArguments_document⟩
  · intro value portable root
    obtain ⟨body, written, reads⟩ := portable.writeValue pretty 0
    refine ⟨String.ofList body, ?_, fun data form => ?_⟩
    · rw [Document.write_json portable, Json.write, written]
      rfl
    · have json : Json.read (String.ofList body) = .ok value := by
        simpa using reads.read Json.gap_nil
      exact Document.read_of_json json form rfl
  · intro raw
    obtain ⟨inner, written, reads⟩ := RawSequence.exists_write_json raw pretty
    refine ⟨_, written, fun data form format named => ?_⟩
    have json := reads [] Json.gap_nil
    rw [List.append_nil] at json
    have found := RawSequence.read_of_json json form named
    refine ⟨found, ?_⟩
    intro world config providers ⟨path, resolved⟩
    rw [PathSpec.load_of_read found]
    exact ⟨_, PathSpec.resolve_of_pathOf resolved, rfl⟩
  · intro world arguments settings config given asked loaded
    obtain ⟨level, printed⟩ := CommandLine.outcome_run_document given asked loaded
    rw [printed]
    exact CommandLine.printDocument_json level settings.raw

/-- Quotes, escapes, control characters and pairs of units, in keys as well as in items. -/
theorem json_round_trip_of_escapes :
    let value : Value :=
      .map [(.text "\"\\\n", .int (-12)), (.text "", .list [.text "\x1f - a: 𝄞", .null])]
    let world : World :=
      ⟨[], [], [], none, [], "linux", "posix", false, "x86_64", "/tmp", true, fun _ => 0,
        fun _ _ => false⟩
    let raw := ["a\"b", "# c"]
    Json.Portable value ∧
      (∃ s, Document.write value (some "json") true "root" = .ok s ∧
        Document.read (.bytes (encodeUtf8 s)) (some "json") = .ok value) ∧
      (∃ s spec, RawSequence.write raw (some "json") true = .ok s ∧
        (PathSpec.load world .default (.builtIn · .default) (.text s) none).outcome = .ok spec ∧
        spec.raw = raw) ∧
      ∃ report, (CommandLine.run world ("--format" :: "json" :: "--" :: raw)).outcome = .ok report ∧
        RawSequence.read (.text report.output) none = .ok raw := by
  intro value world raw
  have items : Json.Portable (.list [.text "\x1f - a: 𝄞", .null]) := by
    refine .list fun item member => ?_
    simp only [List.mem_cons, List.not_mem_nil, or_false] at member
    rcases member with rfl | rfl
    · exact .text _
    · exact .null
  have short : (-12 : Int).natAbs < 10 ^ Number.digitLimit :=
    Nat.lt_of_lt_of_le (show 12 < 10 ^ 2 by decide)
      (Nat.pow_le_pow_right (by decide) (by decide))
  have portable : Json.Portable (.map ([("\"\\\n", .int (-12)),
      ("", .list [.text "\x1f - a: 𝄞", .null])].map Json.entryOf)) := by
    refine .map (by decide) fun entry member => ?_
    simp only [List.mem_cons, List.not_mem_nil, or_false] at member
    rcases member with rfl | rfl
    · exact .int short
    · exact items
  obtain ⟨values, sequences, command, arguments⟩ := json_round_trip true
  obtain ⟨s, written, readBack⟩ := values value portable "root"
  obtain ⟨t, writtenRaw, loaded⟩ := sequences raw
  obtain ⟨-, resolves⟩ := loaded (.text t) List.mem_cons_self none List.mem_cons_self
  obtain ⟨spec, found, kept⟩ := resolves world .default (.builtIn · .default)
    ⟨some ⟨.relative, ["a\"b", "# c"]⟩, rfl⟩
  obtain ⟨report, printed, -, -, given⟩ :=
    command world _ _ Config.default (arguments raw) rfl rfl
  refine ⟨portable, ⟨s, written, readBack _ ?_⟩, ⟨t, spec, writtenRaw, found, kept⟩,
    report, printed, given none List.mem_cons_self⟩
  simp [formsOf]

end PathExpr

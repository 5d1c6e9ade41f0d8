import Mathlib
import PathExpr.CommandLine.Run
import PathExpr.Proofs.Config.Entries
import PathExpr.Proofs.Format.Json.Refusals
import PathExpr.Proofs.Format.Reading
import PathExpr.Proofs.Format.Toml.Refusals
import PathExpr.Proofs.Format.Xml.Refusals
import PathExpr.Proofs.Format.Yaml.Graphs
import PathExpr.Proofs.Format.Yaml.Refusals

/-!
# What becomes of documents that cannot be read

A malformed document stands for its own text, and a configuration file with such
a document is refused as a configuration, which the command reports.  Some
documents are well formed and have no value all the same: those with a number of
too many digits, with a text or a mapping that is no value of its YAML type, or
with an entity of XML.  Others nest deeper than the stack of the machine allows,
and no file has a name with a null character.  These faults go past the reader,
the configuration and the command.
-/

namespace PathExpr

open PathExpr.Format PathExpr.Text

namespace Document

/-- The reading of a text in a format; what is no JSON may still be YAML. -/
def parse (s : String) : DocumentFormat → Reading Value
  | .json =>
    match Json.read s with
    | .error .malformed => Yaml.read s
    | reading => reading
  | .yaml => Yaml.read s
  | .toml => Toml.read s
  | .xml => Xml.read s

/-- A malformed document is read as the text that it is. -/
theorem readAs_eq (s : String) (format : DocumentFormat) :
    readAs s format = otherwise (parse s format) (.ok (.text s)) := by
  cases format with
  | json =>
      simp only [readAs, parse]
      cases Json.read s with
      | ok value => rfl
      | error why => cases why <;> rfl
  | yaml => rfl
  | toml => rfl
  | xml => rfl

/-- The faults that reading a text in a format may end in. -/
def Escapes (s : String) : DocumentFormat → Fault → Prop
  | .json, cause => LongNumber s.toList cause ∨ Yaml.TextFault cause
  | .yaml, cause => Yaml.TextFault cause
  | .toml, cause => LongNumber s.toList cause
  | .xml, cause => Xml.EntityDeclared s.toList cause

theorem escapes_of_parse {s : String} {format : DocumentFormat} {cause : Fault}
    (failed : parse s format = .error (.fault cause)) : Escapes s format cause := by
  cases format with
  | json =>
      simp only [parse] at failed
      split at failed
      · exact .inr (Yaml.textFault_of_read failed)
      · exact .inl (Json.longNumber_of_read failed)
  | yaml => exact Yaml.textFault_of_read failed
  | toml => exact Toml.longNumber_of_read failed
  | xml => exact Xml.entityDeclared_of_read failed

/-- How reading a text in a format ends. -/
inductive OutcomeAs (s : String) (format : DocumentFormat) : Except Fault Value → Prop
  | parsed {value : Value} (parsed : parse s format = .ok value) : OutcomeAs s format (.ok value)
  | malformed (refused : parse s format = .error .malformed) : OutcomeAs s format (.ok (.text s))
  | escaped {cause : Fault} (failed : parse s format = .error (.fault cause))
      (escapes : Escapes s format cause) : OutcomeAs s format (.error cause)

theorem outcome_readAs (s : String) (format : DocumentFormat) :
    OutcomeAs s format (readAs s format) := by
  rw [readAs_eq]
  cases found : parse s format with
  | ok value => exact .parsed found
  | error why =>
      cases why with
      | malformed => exact .malformed found
      | fault cause => exact .escaped found (escapes_of_parse found)

/-- How reading a text on a machine ends, whatever the text is said to be. -/
inductive Outcome (world : World) (s : String) (format : Option String) :
    Except Fault Value → Prop
  | unknown (none : formatFor? format s = none) : Outcome world s format (.ok (.text s))
  | tooDeep {known : DocumentFormat} (found : formatFor? format s = some known)
      (deep : world.outgrows known s = true) :
      Outcome world s format (.error (.tooDeep .document))
  | known {known : DocumentFormat} {result : Except Fault Value}
      (found : formatFor? format s = some known) (shallow : world.outgrows known s = false)
      (outcome : OutcomeAs s known result) : Outcome world s format result

theorem outcome_readOn (world : World) (s : String) (format : Option String) :
    Outcome world s format (readOn world (.text s) format) := by
  simp only [readOn, textOf, Value.shown, bind, Except.bind]
  split
  · next known found =>
      split
      · next deep => exact .tooDeep found deep
      · next shallow =>
          exact .known found (Bool.eq_false_iff.mpr shallow) (outcome_readAs s known)
  · next none => exact .unknown none

/-- A format is known by its own name. -/
theorem formatFor?_word (format : DocumentFormat) (s : String) :
    formatFor? (some format.word) s = some format := by
  cases format <;> rfl

/-- Bytes in a format are read by way of their text. -/
theorem readOn_bytes (world : World) (data : List UInt8) (format : DocumentFormat) :
    readOn world (.bytes data) (some format.word) =
      if world.outgrows format (decodeLenient data) then .error (.tooDeep .document)
      else readAs (decodeLenient data) format := by
  simp only [readOn, textOf, formatFor?_word, bind, Except.bind]
  rfl

/-- Where the stack is large enough for the document, the machine makes no difference. -/
theorem readOn_eq_read {world : World} {data : Value} {format : Option String}
    (shallow : ∀ s known, textOf data = .ok s → formatFor? format s = some known →
      world.outgrows known s = false) :
    readOn world data format = read data format := by
  unfold readOn read
  cases text : textOf data with
  | error fault => rfl
  | ok s =>
      simp only [bind, Except.bind]
      cases found : formatFor? format s with
      | none => rfl
      | some known =>
          simp only [shallow s known text found]
          rfl

/-- A text that does not nest too deep is read in its format. -/
theorem readOn_text {world : World} {s : String} {format : Option String} {known : DocumentFormat}
    (found : formatFor? format s = some known) (shallow : world.outgrows known s = false) :
    readOn world (.text s) format = readAs s known := by
  simp only [readOn, textOf, Value.shown, bind, Except.bind, found, shallow]
  rfl

end Document

namespace Config

/-- The file has an ending for the format and a possible name, and its contents are these. -/
structure Stored (world : World) (path : String) (format : DocumentFormat) (s : String) :
    Prop where
  known : formatOfExtension? (lower (fileExtension path)) = some format
  named : path.toList.contains '\x00' = false
  contents : (world.files.lookup path).map decodeLenient = some s

/-- The contents of the file also nest no deeper than the machine allows. -/
structure Readable (world : World) (path : String) (format : DocumentFormat) (s : String) : Prop
    extends Stored world path format s where
  shallow : world.outgrows format s = false

/-- How loading a configuration ends. -/
inductive Outcome (world : World) (path : String) : Except Fault Config → Prop
  | loaded {config : Config} (within : config.randLength ≤ maxRandLength) :
      Outcome world path (.ok config)
  | refused (key : String) (problem : OptionProblem) :
      Outcome world path (.error (.option key problem))
  | nullInName (null : path.toList.contains '\x00' = true) : Outcome world path (.error .nullInName)
  | missing (absent : world.files.lookup path = none) :
      Outcome world path (.error (.fileMissing path))
  | tooDeep {format : DocumentFormat} {s : String} (stored : Stored world path format s)
      (deep : world.outgrows format s = true) : Outcome world path (.error (.tooDeep .document))
  | blank {format : DocumentFormat} {s : String} (readable : Readable world path format s)
      (malformed : Document.parse s format = .error .malformed) (blank : isAllBlank s = true) :
      Outcome world path (.ok default)
  | unparsed {format : DocumentFormat} {s : String} (readable : Readable world path format s)
      (malformed : Document.parse s format = .error .malformed) (filled : isAllBlank s = false) :
      Outcome world path (.error (.option path .unparsed))
  | escaped {format : DocumentFormat} {s : String} {cause : Fault}
      (readable : Readable world path format s)
      (failed : Document.parse s format = .error (.fault cause))
      (escapes : Document.Escapes s format cause) : Outcome world path (.error cause)
  | unwritable {format : DocumentFormat} {s : String} {value : Value}
      (readable : Readable world path format s) (parsed : Document.parse s format = .ok value)
      (long : ¬ value.IntegersShort) : Outcome world path (.error (.tooManyDigits none))

theorem outcome_ofFileValue {world : World} {path : String} {format : DocumentFormat} {s : String}
    {value : Value} (readable : Readable world path format s)
    (parsed : Document.parse s format = .ok value) :
    Outcome world path (ofFileValue path value) := by
  have mapping : Outcome world path (ofValue value) := by
    have takes := ofValue_spec value
    cases taken : ofValue value with
    | ok config =>
        rw [taken] at takes
        exact .loaded (takes trivial)
    | error fault =>
        rw [taken] at takes
        obtain ⟨key, problem, rfl⟩ | ⟨rfl, long⟩ := takes trivial
        · exact .refused key problem
        · exact .unwritable readable parsed long
  cases value with
  | text t =>
      simp only [ofFileValue]
      split
      · exact .loaded (by decide)
      · exact .refused path .unparsed
  | _ => exact mapping

theorem outcome_ofDocument {world : World} {path : String} {format : DocumentFormat} {s : String}
    (readable : Readable world path format s) :
    Outcome world path (Document.readAs s format >>= ofFileValue path) := by
  rw [Document.readAs_eq]
  cases ended : Document.parse s format with
  | ok value => exact outcome_ofFileValue readable ended
  | error why =>
      cases why with
      | fault cause => exact .escaped readable ended (Document.escapes_of_parse ended)
      | malformed =>
          change Outcome world path (if isAllBlank s then _ else _)
          split
          · next blank => exact .blank readable ended blank
          · next filled => exact .unparsed readable ended (Bool.eq_false_iff.mpr filled)

/-- A file with a known ending is opened, read in the format of the ending, and judged. -/
theorem load_of_known {world : World} {path : String} {format : DocumentFormat}
    (known : formatOfExtension? (lower (fileExtension path)) = some format) :
    load world path = openFile world path >>= fun data =>
      Document.readOn world (.bytes data) (some format.word) >>= ofFileValue path := by
  unfold load
  simp only [known]

theorem load_of_stored {world : World} {path : String} {format : DocumentFormat} {s : String}
    (stored : Stored world path format s) :
    load world path =
      (if world.outgrows format s then .error (.tooDeep .document)
        else Document.readAs s format) >>= ofFileValue path := by
  obtain ⟨data, found, rfl⟩ := Option.map_eq_some_iff.mp stored.contents
  have opened : openFile world path = .ok data := by
    rw [openFile, stored.named, World.readFile, found]
    rfl
  rw [load_of_known stored.known, opened]
  simp only [bind, Except.bind]
  rw [Document.readOn_bytes]

theorem outcome_load (world : World) (path : String) : Outcome world path (load world path) := by
  cases known : formatOfExtension? (lower (fileExtension path)) with
  | none =>
      unfold load
      simp only [known]
      exact .refused path _
  | some format =>
      cases null : path.toList.contains '\x00' with
      | true =>
          rw [load_of_known known, openFile, null]
          exact .nullInName null
      | false =>
          cases found : world.files.lookup path with
          | none =>
              rw [load_of_known known, openFile, null, World.readFile, found]
              exact .missing found
          | some data =>
              have stored : Stored world path format (decodeLenient data) :=
                ⟨known, null, by rw [found]; rfl⟩
              rw [load_of_stored stored]
              cases deep : world.outgrows format (decodeLenient data) with
              | true => exact .tooDeep stored deep
              | false => exact outcome_ofDocument ⟨stored, deep⟩

end Config

namespace CommandLine

/-! ## Which faults are reported -/

/-- The families of the faults that reading a document may end in. -/
def escapingKinds : List FaultKind :=
  [.value, .index, .key, .attribute, .overflow, .type, .recursion]

theorem kind_of_escapes {s : String} {format : DocumentFormat} {cause : Fault}
    (escapes : Document.Escapes s format cause) : cause.kind ∈ escapingKinds := by
  have long : ∀ {cs}, LongNumber cs cause → cause.kind ∈ escapingKinds := by
    rintro cs ⟨digits, rfl, -⟩
    exact List.mem_cons_self
  have text : Yaml.TextFault cause → cause.kind ∈ escapingKinds := by
    intro fault
    cases fault <;> simp [Fault.kind, escapingKinds]
  cases format with
  | json => exact escapes.elim long text
  | yaml => exact text escapes
  | toml => exact long escapes
  | xml =>
      obtain ⟨rfl, -⟩ := escapes
      decide

theorem kind_of_load {world : World} {path : String} {fault : Fault}
    (failed : Config.load world path = .error fault) :
    fault.kind = .option ∨ fault.kind = .file ∨ fault.kind ∈ escapingKinds := by
  have outcome := Config.outcome_load world path
  rw [failed] at outcome
  cases outcome with
  | refused key problem => exact .inl rfl
  | missing absent => exact .inr (.inl rfl)
  | nullInName null => exact .inr (.inr (by decide))
  | tooDeep stored deep => exact .inr (.inr (by decide))
  | unparsed readable malformed filled => exact .inl rfl
  | escaped readable failed escapes => exact .inr (.inr (kind_of_escapes escapes))
  | unwritable readable parsed long => exact .inr (.inr (by decide))

/-- A fault of loading is reported if it is of the configuration or of its file. -/
theorem isReported_iff_of_load {world : World} {path : String} {fault : Fault}
    (failed : Config.load world path = .error fault) :
    isReported fault = true ↔ fault.kind = .option ∨ fault.kind = .file := by
  have kinds := kind_of_load failed
  simp only [isReported]
  simp only [escapingKinds] at kinds
  grind

/-! ## The status of the command -/

theorem status_of_printDocument {level : Int} {raw : List String} {format : DocumentFormat}
    {report : Report} (printed : printDocument level raw format = .ok report) :
    report.status = 0 := by
  obtain ⟨text, -, same⟩ := exists_of_bind_eq_ok printed
  cases same
  rfl

theorem status_of_printPath {world : World} {logger : Logger} {settings : Settings}
    {config : Config} {report : Report}
    (printed : (printPath world logger settings config).outcome = .ok report) :
    report.status ≤ 1 := by
  simp only [printPath, Traced.outcome_bind] at printed
  obtain ⟨spec, -, printed⟩ := exists_of_bind_eq_ok printed
  split at printed
  · cases printed
    exact le_refl 1
  · rw [Traced.outcome_bind] at printed
    obtain ⟨passed, -, same⟩ := exists_of_bind_eq_ok printed
    cases same
    cases passed <;> simp

/-- The configuration that the arguments name fails to load with this fault. -/
def LoadFails (world : World) (arguments : List String) (fault : Fault) : Prop :=
  ∃ settings path, Settings.ofArguments arguments = .ok settings ∧
    settings.config = some path ∧ Config.load world path = .error fault

/-- A fault of loading is reported with a status of its own, or ends the command. -/
theorem outcome_run_of_loadFails {world : World} {arguments : List String} {fault : Fault}
    (fails : LoadFails world arguments fault) :
    ∃ level, (run world arguments).outcome =
      if fault.kind = .option ∨ fault.kind = .file then
        .ok ⟨2, "", errorLine fault.message, level⟩
      else .error fault := by
  obtain ⟨settings, path, given, named, failed⟩ := fails
  have unconfigured : configOf world settings = .error fault := by
    rw [configOf, named]
    exact failed
  let verbosity := if settings.verbose then some Logger.debugLevel else none
  refine ⟨(Logger.detached.setup world verbosity).level, ?_⟩
  simp only [run, given, act, unconfigured, ← isReported_iff_of_load failed]
  split
  · exact Traced.outcome_pure _
  · rfl

theorem loadFails_of_status {world : World} {settings : Settings} {report : Report}
    (ended : (act world settings).outcome = .ok report) (status : report.status = 2) :
    ∃ path fault, settings.config = some path ∧ Config.load world path = .error fault ∧
      isReported fault = true := by
  cases configured : configOf world settings with
  | ok config =>
      simp only [act, configured] at ended
      split at ended
      · have := status_of_printDocument ended
        omega
      · have := status_of_printPath ended
        omega
  | error fault =>
      cases named : settings.config with
      | none => simp [configOf, named] at configured
      | some path =>
          refine ⟨path, fault, rfl, by simpa only [configOf, named] using configured, ?_⟩
          simp only [act, configured] at ended
          split at ended
          · assumption
          · cases ended

/-- The status is that of wrong arguments, and of a configuration refused or not there. -/
theorem status_eq_two_iff (world : World) (arguments : List String) :
    (∃ report, (run world arguments).outcome = .ok report ∧ report.status = 2) ↔
      (∃ problem, Settings.ofArguments arguments = .error (.usage problem)) ∨
      ∃ fault, LoadFails world arguments fault ∧
        (fault.kind = .option ∨ fault.kind = .file) := by
  constructor
  · rintro ⟨report, ended, status⟩
    cases given : Settings.ofArguments arguments with
    | error stop =>
        cases stop with
        | usage problem => exact .inl ⟨problem, rfl⟩
        | help =>
            simp only [run, given] at ended
            cases ended
            cases status
    | ok settings =>
        simp only [run, given] at ended
        obtain ⟨path, fault, named, failed, reported⟩ := loadFails_of_status ended status
        exact .inr ⟨fault, ⟨settings, path, given, named, failed⟩,
          (isReported_iff_of_load failed).mp reported⟩
  · rintro (⟨problem, given⟩ | ⟨fault, fails, reported⟩)
    · refine ⟨(Stop.usage problem).report, ?_, rfl⟩
      simp only [run, given]
      rfl
    · obtain ⟨level, ended⟩ := outcome_run_of_loadFails fails
      rw [if_pos reported] at ended
      exact ⟨_, ended, rfl⟩

end CommandLine

/--
A text, and bytes by way of their text, are read as a value, or as the text itself
where they are malformed or of no known format, and else end in a fault of what
stands in them or nest deeper than the machine allows.  A configuration is loaded
within its bounds or refused, or its file is missing, or the name of the file has
a null character, or such a fault ends the loading.  The command has its status
for wrong arguments, for refused configurations and for missing files alone; any
other fault of loading ends it without a report.
-/
theorem contained_up_to_escapes (world : World) :
    (∀ s format, Document.Outcome world s format (Document.readOn world (.text s) format)) ∧
    (∀ data format,
      Document.readOn world (.bytes data) format =
        Document.readOn world (.text (decodeLenient data)) format ∧
      Document.readOn world (.byteArray data) format =
        Document.readOn world (.text (decodeLenient data)) format) ∧
    (∀ path, Config.Outcome world path (Config.load world path)) ∧
    (∀ arguments,
      (∃ report, (CommandLine.run world arguments).outcome = .ok report ∧ report.status = 2) ↔
        (∃ problem, CommandLine.Settings.ofArguments arguments = .error (.usage problem)) ∨
        ∃ fault, CommandLine.LoadFails world arguments fault ∧
          (fault.kind = .option ∨ fault.kind = .file)) ∧
    ∀ arguments fault, CommandLine.LoadFails world arguments fault →
      ∃ level, (CommandLine.run world arguments).outcome =
        if fault.kind = .option ∨ fault.kind = .file then
          .ok ⟨2, "", CommandLine.errorLine fault.message, level⟩
        else .error fault := by
  refine ⟨?_, ?_, ?_, ?_, ?_⟩
  · intro s format
    exact Document.outcome_readOn world s format
  · intro data format
    -- Bytes of both kinds are decoded before anything else is done with them.
    exact ⟨rfl, rfl⟩
  · intro path
    exact Config.outcome_load world path
  · intro arguments
    exact CommandLine.status_eq_two_iff world arguments
  · intro arguments fault fails
    exact CommandLine.outcome_run_of_loadFails fails

/-- A machine with one file, in which a day of the thirteenth month stands. -/
def World.withLateDay : World :=
  ⟨[], [], [("c.yaml", [50, 48, 50, 48, 45, 49, 51, 45, 48, 49])], none, [], "linux", "posix",
    false, "x86_64", "/tmp", true, fun _ => ⟨0, Nat.succ_pos 61⟩, fun _ _ => false⟩

theorem Document.readAs_lateDay :
    Document.readAs "2020-13-01" .yaml = .error (.calendar .month) := by
  have legal : "2020-13-01".toList.all Yaml.isAllowed = true := rfl
  have tokens : Yaml.tokensOf "2020-13-01".toList = [.scalar "2020-13-01" true, .streamEnd] := rfl
  have found : Yaml.graphOf? "2020-13-01".toList =
      .ok (some (0, [⟨.timestamp, .scalar "2020-13-01"⟩])) := by
    rw [Yaml.graphOf?, tokens]
    rfl
  have failed : Yaml.atomOf .timestamp "2020-13-01" = .error (.fault (.calendar .month)) :=
    rfl
  have parsed : Yaml.read "2020-13-01" = .error (.fault (.calendar .month)) := by
    rw [Yaml.read, legal, found]
    exact Yaml.graphValue_scalar rfl rfl failed
  rw [Document.readAs, parsed]
  rfl

theorem Document.readAs_entity :
    Document.readAs "<!DOCTYPE a [<!ENTITY b \"c\">]><a/>" .xml = .error .entityDeclared :=
  rfl

/-- A date outside the calendar and an entity end the reader, the first the command, too. -/
theorem not_contained_of_lateDay :
    Document.readOn World.withLateDay (.text "2020-13-01") (some "yaml") =
      .error (.calendar .month) ∧
    Document.readOn World.withLateDay (.text "<!DOCTYPE a [<!ENTITY b \"c\">]><a/>") none =
      .error .entityDeclared ∧
    Config.load World.withLateDay "c.yaml" = .error (.calendar .month) ∧
    (CommandLine.run World.withLateDay ["--config", "c.yaml"]).outcome =
      .error (.calendar .month) := by
  have date : Document.readOn World.withLateDay (.text "2020-13-01") (some "yaml") =
      .error (.calendar .month) := by
    have found : Document.formatFor? (some "yaml") "2020-13-01" = some .yaml := rfl
    rw [Document.readOn_text found rfl, Document.readAs_lateDay]
  have entity : Document.readOn World.withLateDay
      (.text "<!DOCTYPE a [<!ENTITY b \"c\">]><a/>") none = .error .entityDeclared := by
    have found : Document.formatFor? none "<!DOCTYPE a [<!ENTITY b \"c\">]><a/>" = some .xml := rfl
    rw [Document.readOn_text found rfl, Document.readAs_entity]
  have stored : Config.Stored World.withLateDay "c.yaml" .yaml "2020-13-01" := ⟨rfl, rfl, rfl⟩
  have failed : Config.load World.withLateDay "c.yaml" = .error (.calendar .month) := by
    rw [Config.load_of_stored stored, if_neg (by decide), Document.readAs_lateDay]
    rfl
  have fails : CommandLine.LoadFails World.withLateDay ["--config", "c.yaml"]
      (.calendar .month) := ⟨_, "c.yaml", rfl, rfl, failed⟩
  obtain ⟨level, ended⟩ := CommandLine.outcome_run_of_loadFails fails
  exact ⟨date, entity, failed, ended⟩

end PathExpr

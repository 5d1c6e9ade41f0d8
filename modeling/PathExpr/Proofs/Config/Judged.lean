import PathExpr.Proofs.Config.Entries
import PathExpr.Proofs.Format.Reading

/-!
# Which entries make a configuration

Every option has a key and is of one of three kinds, and the kind says which values
are accepted, as what they are held, and what is wrong with any other value.  A
mapping is refused for its first entry whose key stands for no option or whose value
is not accepted.  Otherwise every option has what its last entry gives, under
whatever spelling of the key, and options without an entry keep their defaults.
-/

namespace PathExpr

open PathExpr.Format PathExpr.Text

namespace Config

/-! ## Options -/

/-- What an option holds. -/
inductive Kind where
  | switch
  | name
  | length
  deriving DecidableEq

/-- An option of the configuration. -/
inductive Setting where
  | consts
  | dirs
  | project
  | value
  | pkgName
  | pkgVersion
  | randLength
  deriving DecidableEq

namespace Kind

/-- The values that are accepted; a truth value is no integer here, but it has a text. -/
def Accepts : Kind → Value → Prop
  | switch, .bool _ => True
  | name, .text _ => True
  | name, .bool _ => True
  | name, .int _ => True
  | name, .float _ => True
  | length, .int n => 0 ≤ n ∧ n ≤ maxRandLength
  | _, _ => False

/-- What an accepted value is held as: a name is the text of the value. -/
def Keeps (kind : Kind) (value held : Value) : Prop :=
  match kind with
  | name => ∃ words, value.shown = .ok words ∧ held = .text words
  | _ => held = value

/-- What is wrong with a value that is not accepted. -/
def problem : Kind → String → OptionProblem
  | switch => .notSwitch
  | name => .notName
  | length => .notLength maxRandLength

/-- What is held after a value has been read. -/
def read (kind : Kind) (key : String) (value : Value) : Except Fault Value :=
  match kind with
  | switch => return .bool (← readSwitch key value)
  | name => return .text (← readName key value)
  | length => return .int (← readLength key value)

/-- The values that an option of the kind can hold. -/
inductive Fits : Kind → Value → Prop
  | switch (b : Bool) : Fits switch (.bool b)
  | name (words : String) : Fits name (.text words)
  | length (n : Nat) : Fits length (.int n)

end Kind

namespace Setting

/-- All options. -/
def all : List Setting := [consts, dirs, project, value, pkgName, pkgVersion, randLength]

/-- The key of an option, written with underscores. -/
def word : Setting → String
  | consts => "consts"
  | dirs => "dirs"
  | project => "project"
  | value => "value"
  | pkgName => "pkg_name"
  | pkgVersion => "pkg_version"
  | randLength => "rand_length"

/-- The kind of an option: there are two names and one length. -/
def kind : Setting → Kind
  | pkgName => .name
  | pkgVersion => .name
  | randLength => .length
  | _ => .switch

/-- The option that a key stands for, its dashes being read as underscores. -/
def ofWord? (key : String) : Option Setting :=
  all.find? fun setting => setting.word == replace "-" "_" key

/-- The option that a key stands for, the text of any value being a key. -/
def ofKey? (key : Value) : Option Setting :=
  key.shown.toOption.bind ofWord?

/-- The configuration with what an option is to hold. -/
def store (config : Config) : Setting → Value → Config
  | consts, .bool b => { config with consts := b }
  | dirs, .bool b => { config with dirs := b }
  | project, .bool b => { config with project := b }
  | value, .bool b => { config with value := b }
  | pkgName, .text s => { config with pkgName := s }
  | pkgVersion, .text s => { config with pkgVersion := s }
  | randLength, .int n => { config with randLength := n.toNat }
  | _, _ => config

end Setting

/-- What an option holds. -/
def held (config : Config) : Setting → Value
  | .consts => .bool config.consts
  | .dirs => .bool config.dirs
  | .project => .bool config.project
  | .value => .bool config.value
  | .pkgName => .text config.pkgName
  | .pkgVersion => .text config.pkgVersion
  | .randLength => .int config.randLength

theorem held_store_self {setting : Setting} {value : Value} (fits : setting.kind.Fits value)
    (config : Config) : (setting.store config value).held setting = value := by
  cases setting <;> cases fits <;> rfl

theorem held_store_of_ne {setting other : Setting} (different : other ≠ setting) (config : Config)
    (value : Value) : (setting.store config value).held other = config.held other := by
  unfold Setting.store
  split <;> cases other <;> first | rfl | exact (different rfl).elim

theorem Setting.ofWord?_eq_some_iff {words : String} {setting : Setting} :
    ofWord? words = some setting ↔ replace "-" "_" words = setting.word := by
  constructor
  · intro known
    have same := List.find?_some known
    exact (beq_iff_eq.mp same).symm
  · intro same
    rw [ofWord?, same]
    cases setting <;> decide

/-- One entry is taken over by reading its value as the kind of its option wants it. -/
theorem withEntry_eq (config : Config) (key value : Value) :
    config.withEntry (key, value) = (do
      let words ← key.shown
      match Setting.ofWord? words with
      | some setting => return setting.store config (← setting.kind.read words value)
      | none => throw (.option words .unknown)) := by
  unfold withEntry
  cases key.shown with
  | error fault => rfl
  | ok words =>
      dsimp only [bind, Except.bind]
      cases known : Setting.ofWord? words with
      | some setting =>
          rw [Setting.ofWord?_eq_some_iff.mp known]
          cases setting with
          | consts | dirs | project | value =>
              dsimp only [Setting.word, Setting.kind, Kind.read]
              cases readSwitch words value <;> rfl
          | pkgName | pkgVersion =>
              dsimp only [Setting.word, Setting.kind, Kind.read]
              cases readName words value <;> rfl
          | randLength =>
              dsimp only [Setting.word, Setting.kind, Kind.read]
              cases readLength words value <;> rfl
      | none =>
          have unknown : ∀ setting : Setting, replace "-" "_" words ≠ setting.word := by
            intro setting same
            rw [Setting.ofWord?_eq_some_iff.mpr same] at known
            cases known
          split
          · next same => exact (unknown .consts same).elim
          · next same => exact (unknown .dirs same).elim
          · next same => exact (unknown .project same).elim
          · next same => exact (unknown .value same).elim
          · next same => exact (unknown .pkgName same).elim
          · next same => exact (unknown .pkgVersion same).elim
          · next same => exact (unknown .randLength same).elim
          · rfl

/-! ## Values -/

/-- An accepted value is read, and what is held of it fits its kind. -/
theorem Kind.read_of_accepts {kind : Kind} {value : Value} (accepts : kind.Accepts value)
    (short : value.IntegersShort) (key : String) :
    ∃ held, kind.read key value = .ok held ∧ kind.Keeps value held ∧ kind.Fits held := by
  cases kind with
  | switch =>
      cases value with
      | bool b => exact ⟨.bool b, rfl, rfl, .switch b⟩
      | _ => exact accepts.elim
  | length =>
      cases value with
      | int n =>
          obtain ⟨low, high⟩ := accepts
          obtain ⟨amount, rfl⟩ := Int.eq_ofNat_of_zero_le low
          refine ⟨.int amount, ?_, rfl, .length amount⟩
          simp [read, readLength, high]
      | _ => exact accepts.elim
  | name =>
      cases value with
      | text s => exact ⟨.text s, rfl, ⟨s, rfl, rfl⟩, .name s⟩
      | bool b | int n | float x =>
          obtain ⟨words, shown⟩ := Value.exists_shown short
          exact ⟨.text words, by rw [read, readName, shown]; rfl, ⟨words, shown, rfl⟩, .name words⟩
      | _ => exact accepts.elim

/-- Any other value is refused with a message that shows it. -/
theorem Kind.read_of_not_accepts {kind : Kind} {value : Value} (refused : ¬ kind.Accepts value)
    (short : value.IntegersShort) (key : String) :
    ∃ words, value.display = .ok words ∧
      kind.read key value = .error (.option key (kind.problem words)) := by
  obtain ⟨words, shown⟩ := value.exists_display short
  refine ⟨words, shown, ?_⟩
  cases kind with
  | switch =>
      cases value with
      | bool b => exact (refused trivial).elim
      | _ =>
          simp only [read, readSwitch, shown]
          rfl
  | length =>
      cases value with
      | int n =>
          have outside : (decide (0 ≤ n) && decide (n ≤ maxRandLength)) = false := by
            rw [← Bool.decide_and, decide_eq_false_iff_not]
            exact refused
          simp only [read, readLength, outside, shown]
          rfl
      | _ =>
          simp only [read, readLength, shown]
          rfl
  | name =>
      cases value with
      | text | bool | int | float => exact (refused trivial).elim
      | _ =>
          simp only [read, readName, shown]
          rfl

/-! ## Entries -/

/-- The key stands for an option that accepts the value. -/
def IsValid (entry : Value × Value) : Prop :=
  ∃ setting, Setting.ofKey? entry.1 = some setting ∧ setting.kind.Accepts entry.2

/-- What is wrong with an entry. -/
inductive Flaw (entry : Value × Value) : OptionProblem → Prop
  | unknown (none : Setting.ofKey? entry.1 = none) : Flaw entry .unknown
  | unfit {setting : Setting} {words : String} (known : Setting.ofKey? entry.1 = some setting)
      (refused : ¬ setting.kind.Accepts entry.2) (shown : entry.2.display = .ok words) :
      Flaw entry (setting.kind.problem words)

/-- The value of the last entry for an option. -/
def lastFor (setting : Setting) (entries : List (Value × Value)) : Option Value :=
  entries.reverse.findSome? fun entry =>
    if Setting.ofKey? entry.1 = some setting then some entry.2 else none

/-- An option has what its last entry gives, and without one what it had before. -/
def Settled (before after : Config) (entries : List (Value × Value)) (setting : Setting) : Prop :=
  match lastFor setting entries with
  | some value => setting.kind.Keeps value (after.held setting)
  | none => after.held setting = before.held setting

theorem lastFor_cons (setting : Setting) (entry : Value × Value) (rest : List (Value × Value)) :
    lastFor setting (entry :: rest) = (lastFor setting rest).or
      (if Setting.ofKey? entry.1 = some setting then some entry.2 else none) := by
  simp [lastFor, List.findSome?_append]

theorem Setting.exists_of_ofKey? {key : Value} {setting : Setting}
    (known : ofKey? key = some setting) :
    ∃ words, key.shown = .ok words ∧ ofWord? words = some setting := by
  unfold ofKey? at known
  cases shown : key.shown with
  | error fault => simp [shown, Except.toOption] at known
  | ok words => exact ⟨words, rfl, by simpa [shown, Except.toOption] using known⟩

/-- Neither a key nor a value has an overlong integer. -/
def ShortEntry (entry : Value × Value) : Prop :=
  entry.1.IntegersShort ∧ entry.2.IntegersShort

theorem shortEntry_of_mem {entries : List (Value × Value)}
    (short : (Value.map entries).IntegersShort) : ∀ entry ∈ entries, ShortEntry entry :=
  fun _ member => ⟨fun n inside => short n (.key member inside),
    fun n inside => short n (.value member inside)⟩

theorem withEntry_of_valid {entry : Value × Value} {setting : Setting}
    (known : Setting.ofKey? entry.1 = some setting) (accepts : setting.kind.Accepts entry.2)
    (short : ShortEntry entry) (config : Config) :
    ∃ value, setting.kind.Keeps entry.2 value ∧ setting.kind.Fits value ∧
      config.withEntry entry = .ok (setting.store config value) := by
  obtain ⟨words, shown, stands⟩ := Setting.exists_of_ofKey? known
  obtain ⟨value, read, keeps, fits⟩ := Kind.read_of_accepts accepts short.2 words
  refine ⟨value, keeps, fits, ?_⟩
  rw [withEntry_eq config entry.1 entry.2, shown]
  simp only [bind, Except.bind, stands, read]
  rfl

theorem withEntry_of_not_valid {entry : Value × Value} (invalid : ¬ IsValid entry)
    (short : ShortEntry entry) (config : Config) :
    ∃ key problem, entry.1.shown = .ok key ∧ Flaw entry problem ∧
      config.withEntry entry = .error (.option key problem) := by
  obtain ⟨key, shown⟩ := Value.exists_shown short.1
  have stands : Setting.ofKey? entry.1 = Setting.ofWord? key := by
    rw [Setting.ofKey?, shown]
    rfl
  cases known : Setting.ofWord? key with
  | none =>
      refine ⟨key, .unknown, shown, .unknown (stands.trans known), ?_⟩
      rw [withEntry_eq config entry.1 entry.2, shown]
      simp only [bind, Except.bind, known]
      rfl
  | some setting =>
      have refused : ¬ setting.kind.Accepts entry.2 :=
        fun accepts => invalid ⟨setting, stands.trans known, accepts⟩
      obtain ⟨words, displayed, read⟩ := Kind.read_of_not_accepts refused short.2 key
      refine ⟨key, _, shown, .unfit (stands.trans known) refused displayed, ?_⟩
      rw [withEntry_eq config entry.1 entry.2, shown]
      simp only [bind, Except.bind, known, read]

/-- What a first entry gives stays until a later entry for the same option. -/
theorem Settled.cons {setting : Setting} {entry : Value × Value} {rest : List (Value × Value)}
    {config after : Config} {value : Value} (known : Setting.ofKey? entry.1 = some setting)
    (keeps : setting.kind.Keeps entry.2 value) (fits : setting.kind.Fits value) {other : Setting}
    (settled : Settled (setting.store config value) after rest other) :
    Settled config after (entry :: rest) other := by
  unfold Settled at settled ⊢
  rw [lastFor_cons, known]
  cases later : lastFor other rest with
  | some last =>
      rw [later] at settled
      exact settled
  | none =>
      rw [later] at settled
      dsimp only at settled
      by_cases same : other = setting
      · subst same
        rw [held_store_self fits] at settled
        simpa [settled] using keeps
      · rw [held_store_of_ne same] at settled
        simpa [Ne.symm same] using settled

theorem withEntries_of_valid {entries : List (Value × Value)}
    (valid : ∀ entry ∈ entries, IsValid entry) (short : ∀ entry ∈ entries, ShortEntry entry)
    (config : Config) :
    ∃ after, config.withEntries entries = .ok after ∧
      ∀ setting, Settled config after entries setting := by
  -- Each entry is taken over into the configuration that the entries before it have made.
  induction entries generalizing config with
  | nil => exact ⟨config, rfl, fun _ => rfl⟩
  | cons entry rest ih =>
      obtain ⟨⟨setting, known, accepts⟩, validRest⟩ := List.forall_mem_cons.mp valid
      obtain ⟨shortEntry, shortRest⟩ := List.forall_mem_cons.mp short
      obtain ⟨value, keeps, fits, first⟩ := withEntry_of_valid known accepts shortEntry config
      obtain ⟨after, others, settled⟩ := ih validRest shortRest (setting.store config value)
      refine ⟨after, ?_, fun other => (settled other).cons known keeps fits⟩
      rw [withEntries, first]
      exact others

theorem withEntries_append (config : Config) (before after : List (Value × Value)) :
    config.withEntries (before ++ after) =
      config.withEntries before >>= fun next => next.withEntries after := by
  induction before generalizing config with
  | nil => rfl
  | cons entry rest ih =>
      rw [List.cons_append, withEntries, withEntries]
      cases config.withEntry entry with
      | error fault => rfl
      | ok next => exact ih next

/-- The entries are refused for the first that is not valid. -/
theorem withEntries_of_not_valid {before after : List (Value × Value)} {entry : Value × Value}
    (valid : ∀ other ∈ before, IsValid other) (invalid : ¬ IsValid entry)
    (short : ∀ other ∈ before ++ entry :: after, ShortEntry other) (config : Config) :
    ∃ key problem, entry.1.shown = .ok key ∧ Flaw entry problem ∧
      config.withEntries (before ++ entry :: after) = .error (.option key problem) := by
  obtain ⟨next, front, -⟩ := withEntries_of_valid valid
    (fun other member => short other (List.mem_append_left _ member)) config
  obtain ⟨key, problem, shown, flaw, refused⟩ :=
    withEntry_of_not_valid invalid (short entry (by simp)) next
  refine ⟨key, problem, shown, flaw, ?_⟩
  rw [withEntries_append, front]
  change next.withEntries (entry :: after) = _
  rw [withEntries, refused]
  rfl

/-! ## The mapping of a configuration -/

theorem Kind.read_held {config : Config} (within : config.randLength ≤ maxRandLength)
    (setting : Setting) (key : String) :
    setting.kind.read key (config.held setting) = .ok (config.held setting) := by
  cases setting with
  | randLength => simp [Setting.kind, held, read, readLength, within]
  | _ => rfl

theorem withEntries_held {config : Config} (within : config.randLength ≤ maxRandLength)
    (settings : List Setting) (start : Config) :
    start.withEntries (settings.map fun setting => (.text setting.word, config.held setting)) =
      .ok (settings.foldl (fun next setting => setting.store next (config.held setting))
        start) := by
  induction settings generalizing start with
  | nil => rfl
  | cons setting rest ih =>
      have stands : Setting.ofWord? setting.word = some setting := by
        cases setting <;> decide
      have first : start.withEntry (.text setting.word, config.held setting) =
          .ok (setting.store start (config.held setting)) := by
        rw [withEntry_eq]
        simp only [Value.shown, bind, Except.bind, stands, Kind.read_held within]
        rfl
      rw [List.map_cons, withEntries, first]
      exact ih _

/-- A configuration within its bound is read from its own mapping. -/
theorem ofValue_toValue {config : Config} (within : config.randLength ≤ maxRandLength) :
    ofValue config.toValue = .ok config := by
  have stored : Setting.all.foldl (fun next setting => setting.store next (config.held setting))
      default = config := by
    cases config
    rfl
  have read : ofValue config.toValue = default.withEntries
      (Setting.all.map fun setting => (.text setting.word, config.held setting)) := rfl
  rw [read, withEntries_held within, stored]

theorem randLength_le_of_ofValue {value : Value} {config : Config}
    (taken : ofValue value = .ok config) : config.randLength ≤ maxRandLength := by
  have takes := ofValue_spec value
  rw [taken] at takes
  exact takes trivial

/-- A list with an entry that is not valid has a first such entry. -/
theorem exists_first_not_valid {entries : List (Value × Value)}
    (invalid : ¬ ∀ entry ∈ entries, IsValid entry) :
    ∃ before entry after, entries = before ++ entry :: after ∧
      (∀ other ∈ before, IsValid other) ∧ ¬ IsValid entry := by
  induction entries with
  | nil => exact (invalid (by simp)).elim
  | cons first rest ih =>
      by_cases valid : IsValid first
      · have later : ¬ ∀ entry ∈ rest, IsValid entry :=
          fun all => invalid (List.forall_mem_cons.mpr ⟨valid, all⟩)
        obtain ⟨before, entry, after, rfl, validBefore, invalidEntry⟩ := ih later
        exact ⟨first :: before, entry, after, rfl,
          List.forall_mem_cons.mpr ⟨valid, validBefore⟩, invalidEntry⟩
      · exact ⟨[], first, rest, rfl, by simp, valid⟩

/--
Nothing gives the default configuration, and what is neither nothing nor a mapping
is refused as a whole.  A mapping gives a configuration exactly if all its entries
are valid.  If not, it is refused under the key of the first that is not, with what
is wrong with this entry.  If so, each option has what its last entry gives, or its
default.  A configuration that is given keeps to the bound on lengths, and it is
given again by the mapping of its options.
-/
theorem ofValue_judges {value : Value} (short : value.IntegersShort) :
    (value.opened = .null → ofValue value = .ok default) ∧
    (value.opened ≠ .null → (∀ entries, value.opened ≠ .map entries) →
      ofValue value = .error (.option "<root>" (.notMapping value.typeName))) ∧
    (∀ entries, value.opened = .map entries →
      ((∃ config, ofValue value = .ok config) ↔ ∀ entry ∈ entries, IsValid entry) ∧
      (∀ before entry after, entries = before ++ entry :: after →
        (∀ other ∈ before, IsValid other) → ¬ IsValid entry →
        ∃ key problem, entry.1.shown = .ok key ∧ Flaw entry problem ∧
          ofValue value = .error (.option key problem)) ∧
      ∀ config, ofValue value = .ok config →
        ∀ setting, Settled default config entries setting) ∧
    ∀ config, ofValue value = .ok config →
      config.randLength ≤ maxRandLength ∧ ofValue config.toValue = .ok config := by
  refine ⟨?_, ?_, ?_, ?_⟩
  · intro nothing
    rw [ofValue, nothing]
  · intro filled unmapped
    unfold ofValue
    generalize value.opened = top at filled unmapped ⊢
    cases top with
    | null => exact (filled rfl).elim
    | map entries => exact (unmapped entries rfl).elim
    | _ => rfl
  · intro entries mapping
    have shortEntries := shortEntry_of_mem (mapping ▸ short.opened)
    have read : ofValue value = default.withEntries entries := by
      rw [ofValue, mapping]
    have refused : ∀ before entry after, entries = before ++ entry :: after →
        (∀ other ∈ before, IsValid other) → ¬ IsValid entry →
        ∃ key problem, entry.1.shown = .ok key ∧ Flaw entry problem ∧
          ofValue value = .error (.option key problem) := by
      rintro before entry after rfl valid invalid
      rw [read]
      exact withEntries_of_not_valid valid invalid shortEntries default
    have accepted : (∃ config, ofValue value = .ok config) ↔
        ∀ entry ∈ entries, IsValid entry := by
      constructor
      · rintro ⟨config, taken⟩
        by_contra invalid
        obtain ⟨before, entry, after, whole, valid, invalidEntry⟩ := exists_first_not_valid invalid
        obtain ⟨key, problem, -, -, failed⟩ := refused before entry after whole valid invalidEntry
        rw [taken] at failed
        cases failed
      · intro valid
        obtain ⟨config, taken, -⟩ := withEntries_of_valid valid shortEntries default
        exact ⟨config, read.trans taken⟩
    refine ⟨accepted, refused, fun config taken => ?_⟩
    obtain ⟨after, same, settled⟩ :=
      withEntries_of_valid (accepted.mp ⟨config, taken⟩) shortEntries default
    obtain rfl : config = after := Except.ok.inj (taken.symm.trans (read.trans same))
    exact settled
  · intro config taken
    have within := randLength_le_of_ofValue taken
    exact ⟨within, ofValue_toValue within⟩

/-- Two spellings of one key, the later entry counting, and a bad entry before an unknown one. -/
theorem ofValue_judges_of_two_spellings :
    let entries : List (Value × Value) :=
      [(.text "rand-length", .int 8), (.text "pkg-name", .bool true),
        (.text "rand_length", .int 99)]
    let refused : List (Value × Value) :=
      [(.text "dirs", .bool false), (.text "rand_length", .bool true), (.text "colour", .null)]
    (Value.map entries).IntegersShort ∧ (Value.map refused).IntegersShort ∧
      (∃ config, ofValue (.map entries) = .ok config ∧ config.randLength = 99 ∧
        config.pkgName = "True" ∧ config.dirs = true) ∧
      ∃ problem, ofValue (.map refused) = .error (.option "rand_length" problem) := by
  intro entries refused
  have text : ∀ s, (Value.text s).IntegersShort := fun _ _ => nofun
  have bool : ∀ b, (Value.bool b).IntegersShort := fun _ _ => nofun
  have int : ∀ n < (100 : Nat), (Value.int n).IntegersShort := by
    rintro n small m ⟨⟩
    have digits : ∀ n < 100, (Nat.toDigits 10 n).length ≤ Number.digitLimit := by
      decide +kernel
    exact digits n small
  have short : (Value.map entries).IntegersShort := by
    refine Value.integersShort_map ?_
    simp only [entries, List.forall_mem_cons]
    exact ⟨⟨text _, int 8 (by decide)⟩, ⟨text _, bool _⟩, ⟨text _, int 99 (by decide)⟩, nofun⟩
  have shortRefused : (Value.map refused).IntegersShort := by
    refine Value.integersShort_map ?_
    simp only [refused, List.forall_mem_cons]
    exact ⟨⟨text _, bool _⟩, ⟨text _, bool _⟩, ⟨text _, fun _ => nofun⟩, nofun⟩
  obtain ⟨accepted, -, settled⟩ := (ofValue_judges short).2.2.1 entries rfl
  obtain ⟨config, taken⟩ := accepted.mpr (by
    simp only [entries, List.forall_mem_cons]
    exact ⟨⟨.randLength, rfl, by decide, by decide⟩, ⟨.pkgName, rfl, trivial⟩,
      ⟨.randLength, rfl, by decide, by decide⟩, nofun⟩)
  obtain ⟨-, first, -⟩ := (ofValue_judges shortRefused).2.2.1 refused rfl
  obtain ⟨key, problem, shown, -, failed⟩ :=
    first [(.text "dirs", .bool false)] (.text "rand_length", .bool true) [(.text "colour", .null)]
      rfl (List.forall_mem_singleton.mpr ⟨.dirs, rfl, trivial⟩) (by
        rintro ⟨setting, known, accepts⟩
        have same : setting = .randLength := Option.some.inj (known.symm.trans rfl)
        subst same
        exact accepts)
  cases shown
  refine ⟨short, shortRefused, ⟨config, taken, ?_, ?_, ?_⟩, problem, failed⟩
  · have length : config.held .randLength = .int 99 := settled config taken .randLength
    exact Int.ofNat_inj.mp (Value.int.inj length)
  · obtain ⟨words, shown, name⟩ : ∃ words, (Value.bool true).shown = .ok words ∧
        config.held .pkgName = .text words := settled config taken .pkgName
    cases shown
    exact Value.text.inj name
  · have switch : config.held .dirs = .bool true := settled config taken .dirs
    exact Value.bool.inj switch

end Config

end PathExpr

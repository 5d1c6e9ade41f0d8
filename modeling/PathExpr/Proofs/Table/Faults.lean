import Mathlib.Data.List.DropRight
import PathExpr.Table.Directories
import PathExpr.Table.ProjectDirs
import PathExpr.Table.Values

/-!
# Where the built-in tables fail

Most entries of the built-in tables have a value or none whatever the machine
is like.  Three things go wrong nevertheless.  A variable may hold a path whose
first component begins with a tilde, and the home that this stands for may be
unknown.  The file of user directories may not be UTF-8.  The length of a random
text may have too many digits to be read.

What an entry takes from variables and from the file is its demand.  An entry
fails exactly when its demand cannot be met.
-/

namespace PathExpr

open PathExpr.Text

/-! ## Homes -/

namespace World

variable (world : World)

/-- No home is known for a component that begins with a tilde. -/
def HomeUnknown (component : String) : Prop :=
  ∀ home, world.homeOf? (String.ofList (component.toList.drop 1)) = some home →
    home.toList.head? = some '~'

/-- The text is a relative path that begins with a tilde whose home is unknown. -/
def Homeless (text : String) : Prop :=
  (Path.ofText text).root = .relative ∧
    ∃ first rest, (Path.ofText text).parts = first :: rest ∧ first.toList.head? = some '~' ∧
      world.HomeUnknown first

/-- The variable is set to a path whose home is unknown. -/
def HomelessVariable (name : String) : Prop :=
  ∃ text, world.nonEmpty? name = some text ∧ world.Homeless text

/-- Leaving out the slashes at the end does not change whether a home begins with a tilde. -/
theorem head?_dropSlashes (home : String) :
    (dropSlashes home).toList.head? = some '~' ↔ home.toList.head? = some '~' := by
  have kept : (dropSlashes home).toList = home.toList.rdropWhile (· == '/') := by
    simp [dropSlashes, List.rdropWhile]
  have whole : home.toList.rdropWhile (· == '/') ++ home.toList.rtakeWhile (· == '/') =
      home.toList := List.rdropWhile_append_rtakeWhile
  rw [kept]
  cases dropped : home.toList.rdropWhile (· == '/') with
  | nil =>
      -- Then there are only slashes in the text.
      rw [dropped, List.nil_append] at whole
      constructor
      · intro first
        cases first
      · intro first
        have member := List.mem_of_head? first
        rw [← whole] at member
        have slash := List.mem_rtakeWhile_imp member
        cases slash
  | cons c rest =>
      rw [dropped, List.cons_append] at whole
      rw [← whole]
      rfl

/-- A tilde fails exactly when its home is unknown, or begins with a tilde itself. -/
theorem tildeHome_eq_error_iff {component : String} {fault : Fault} :
    world.tildeHome component = .error fault ↔
      fault = .homeUnknown ∧ world.HomeUnknown component := by
  unfold tildeHome HomeUnknown
  cases known : world.homeOf? (String.ofList (component.toList.drop 1)) with
  | none => simp [eq_comm]
  | some home =>
      have slash : "/".toList.head? ≠ some '~' := by
        decide
      have tilde := head?_dropSlashes home
      by_cases empty : dropSlashes home = ""
      · have bare : home.toList.head? ≠ some '~' := by
          simp [← tilde, empty]
        simp [empty, bare]
      · by_cases begins : home.toList.head? = some '~'
        · simp [empty, tilde, begins, eq_comm]
        · simp [empty, tilde, begins]

/-- Expansion fails only for a relative path, since a root comes before any tilde. -/
theorem expandHome_eq_error_iff {text : String} {fault : Fault} :
    world.expandHome (Path.ofText text) = .error fault ↔
      fault = .homeUnknown ∧ world.Homeless text := by
  unfold expandHome Homeless
  rcases Path.ofText text with ⟨root, parts⟩
  cases root with
  | single | double => simp
  | relative =>
      cases parts with
      | nil => simp
      | cons first rest =>
          by_cases tilde : first.toList.head? = some '~'
          · cases found : world.tildeHome first with
            | error other =>
                have unknown := world.tildeHome_eq_error_iff.mp found
                simp [tilde, found, unknown, Bind.bind, Except.bind, eq_comm]
            | ok home =>
                have known : ¬ world.HomeUnknown first := by
                  intro unknown
                  have failed := world.tildeHome_eq_error_iff.mpr ⟨rfl, unknown⟩
                  rw [found] at failed
                  cases failed
                simp [tilde, found, known, Bind.bind, Except.bind, Pure.pure, Except.pure]
          · simp [tilde]

end World

/-! ## Demands -/

namespace Table

/-- The file of user directories is there and is not UTF-8. -/
def UserDir.Undecodable (world : World) (fault : Fault) : Prop :=
  ∃ config bytes flaw, BaseDir.config world = .ok (some config) ∧
    world.readFile (config.child "user-dirs.dirs").text = .ok bytes ∧
    UserDir.decodeFile bytes = .error flaw ∧ fault = .undecodable flaw

/-- What an entry takes from the machine that it may fail to get. -/
structure Demand where
  /-- The variables whose values are taken for paths. -/
  names : List String
  /-- Whether the file of user directories is read. -/
  userFile : Bool

namespace Demand

/-- No demand. -/
def nothing : Demand := ⟨[], false⟩

/-- The fault of a demand that is not met. -/
def Fails (world : World) (demand : Demand) (fault : Fault) : Prop :=
  (fault = .homeUnknown ∧ ∃ name ∈ demand.names, world.HomelessVariable name) ∨
    (demand.userFile = true ∧ UserDir.Undecodable world fault)

/-- The result is a fault exactly when the demand is not met. -/
def Decides (world : World) (demand : Demand) {α : Type} (result : Except Fault α) : Prop :=
  ∀ fault, result = .error fault ↔ demand.Fails world fault

variable {world : World} {demand : Demand} {α β : Type}

/-- A value needs nothing of the machine. -/
theorem decides_ok (value : α) : nothing.Decides world (.ok value) := by
  intro fault
  simp [Fails, nothing]

/-- What is made of a result without a further fault has the faults of the result. -/
theorem bind_eq_error_iff {result : Except Fault α} {next : α → Except Fault β} {fault : Fault}
    (total : ∀ value, result = .ok value → ∃ other, next value = .ok other) :
    (result >>= next) = .error fault ↔ result = .error fault := by
  cases result with
  | error other => simp [Bind.bind, Except.bind]
  | ok value =>
      obtain ⟨other, given⟩ := total value rfl
      simp [Bind.bind, Except.bind, given]

/-- A demand is kept by a next step that always has a result. -/
theorem Decides.bind {result : Except Fault α} (decides : demand.Decides world result)
    {next : α → Except Fault β}
    (total : ∀ value, result = .ok value → ∃ other, next value = .ok other) :
    demand.Decides world (result >>= next) := by
  intro fault
  rw [bind_eq_error_iff total, decides fault]

theorem Decides.bind_pure {result : Except Fault α} (decides : demand.Decides world result)
    (f : α → β) : demand.Decides world (do return f (← result)) :=
  decides.bind fun value _ => ⟨f value, rfl⟩

/-- The outcome is a fault exactly when the demand is not met, and nothing is asked for. -/
structure Governs (world : World) (demand : Demand) {α : Type} (lookup : Traced α) : Prop where
  decides : demand.Decides world lookup.outcome
  quiet : lookup.calls = []

theorem governs_pure (value : α) : nothing.Governs world (pure value) :=
  ⟨decides_ok value, rfl⟩

/-- A search asks no resolver for anything. -/
theorem governs_ofExcept {result : Except Fault α} (decides : demand.Decides world result) :
    demand.Governs world (Traced.ofExcept result) :=
  ⟨decides, rfl⟩

/-- What is made of a lookup has the same demand. -/
theorem Governs.bind_pure {lookup : Traced α} (governs : demand.Governs world lookup)
    (f : α → β) : demand.Governs world (do return f (← lookup)) := by
  obtain ⟨decides, quiet⟩ := governs
  refine ⟨?_, ?_⟩
  · rw [Traced.outcome_bind]
    exact decides.bind_pure f
  · rcases lookup with ⟨events, fault | value⟩
    · exact quiet
    · simpa [Traced.bind_of_ok, Traced.calls] using quiet

/-- The variables of a first result, and of a second one unless the first is a path. -/
def inTurn (names others : List String) : DirResult → Demand
  | .ok (some _) => nothing
  | _ => ⟨names ++ others, false⟩

/-- Where the first result is a path, the second one is not demanded. -/
theorem Decides.orElse {names others : List String} {first second : DirResult}
    (decides : Decides world ⟨names, false⟩ first)
    (decidesOther : Decides world ⟨others, false⟩ second) :
    Decides world (inTurn names others first)
      (do match ← first with
        | some path => return some path
        | none => second) := by
  intro fault
  have alone := decides fault
  have other := decidesOther fault
  simp only [Fails, Bool.false_eq_true, false_and, or_false] at alone other
  rcases first with failed | _ | path
  · -- A first search that fails decides; its variables are among those of both.
    simp only [Except.error.injEq] at alone
    obtain ⟨rfl, homeless⟩ := (decides failed).mp rfl |>.resolve_right (by simp)
    simp only [inTurn, Fails, List.mem_append, Bool.false_eq_true, false_and, or_false]
    obtain ⟨name, member, bad⟩ := homeless
    constructor
    · intro same
      cases same
      exact ⟨rfl, name, Or.inl member, bad⟩
    · rintro ⟨rfl, -⟩
      rfl
  · -- A first search that finds nothing has not failed, so none of its variables is homeless.
    simp only [inTurn, Fails, List.mem_append, Bool.false_eq_true, false_and, or_false]
    change second = .error fault ↔ _
    rw [other]
    simp only [reduceCtorEq, false_iff, not_and, not_exists] at alone
    constructor
    · rintro ⟨rfl, name, member, bad⟩
      exact ⟨rfl, name, Or.inr member, bad⟩
    · rintro ⟨rfl, name, member | member, bad⟩
      · exact (alone rfl name member bad).elim
      · exact ⟨rfl, name, member, bad⟩
  · exact decides_ok _ fault

end Demand

open Demand

/-! ## Base directories -/

namespace BaseDir

variable (world : World)

/-- The path in a variable has the variable as its demand. -/
theorem decides_pathIn (name : String) : Decides world ⟨[name], false⟩ (pathIn world name) := by
  intro fault
  simp only [Fails, World.HomelessVariable, List.mem_singleton, exists_eq_left,
    Bool.false_eq_true, false_and, or_false]
  cases set : world.nonEmpty? name with
  | none => simp [pathIn, set]
  | some text =>
      have expansion : pathIn world name = (world.expandHome (Path.ofText text)).map some := by
        simp [pathIn, set]
      cases expanded : world.expandHome (Path.ofText text) with
      | error other =>
          have homeless := world.expandHome_eq_error_iff.mp expanded
          simp [expansion, expanded, Except.map, homeless, eq_comm]
      | ok path =>
          have housed : ¬ world.Homeless text := by
            intro homeless
            have failed := world.expandHome_eq_error_iff.mpr ⟨rfl, homeless⟩
            rw [expanded] at failed
            cases failed
          simp [expansion, expanded, Except.map, housed]

/-- Passing over a relative path is no fault, so the demand stays. -/
theorem decides_absoluteIn (name : String) :
    Decides world ⟨[name], false⟩ (absoluteIn world name) :=
  (decides_pathIn world name).bind_pure _

/-- The place below the home directory adds no demand: without a home there is none. -/
theorem decides_variableOr (name : String) (names : List String) :
    Decides world ⟨[name], false⟩ (variableOr world name names) := by
  refine (decides_absoluteIn world name).bind fun path _ => ?_
  cases path with
  | none => exact ⟨_, rfl⟩
  | some path => exact ⟨_, rfl⟩

/-- A variable of Windows, none on macOS, and a variable of the other systems. -/
def oneVariable (windows other : String) : Demand :=
  ⟨if world.isWindows then [windows] else if world.isMac then [] else [other], false⟩

/-- A variable of the systems that are neither Windows nor macOS. -/
def otherVariable (name : String) : Demand :=
  ⟨if world.isWindows || world.isMac then [] else [name], false⟩

theorem decides_cache :
    Decides world (oneVariable world "LOCALAPPDATA" "XDG_CACHE_HOME") (cache world) := by
  unfold cache oneVariable
  split
  · exact decides_pathIn world _
  · split
    · exact decides_ok _
    · exact decides_variableOr world _ _

theorem decides_config :
    Decides world (oneVariable world "APPDATA" "XDG_CONFIG_HOME") (config world) := by
  unfold config oneVariable
  split
  · exact decides_pathIn world _
  · split
    · exact decides_ok _
    · exact decides_variableOr world _ _

/-- On Windows the variable is another one than that of the settings at large. -/
theorem decides_localConfig :
    Decides world (oneVariable world "LOCALAPPDATA" "XDG_CONFIG_HOME") (localConfig world) := by
  have same := decides_config world
  unfold localConfig
  unfold oneVariable at same ⊢
  split
  · exact decides_pathIn world _
  · next other => simpa [other] using same

theorem decides_data :
    Decides world (oneVariable world "APPDATA" "XDG_DATA_HOME") (data world) := by
  unfold data oneVariable
  split
  · exact decides_pathIn world _
  · split
    · exact decides_ok _
    · exact decides_variableOr world _ _

theorem decides_localData :
    Decides world (oneVariable world "LOCALAPPDATA" "XDG_DATA_HOME") (localData world) := by
  have same := decides_data world
  unfold localData
  unfold oneVariable at same ⊢
  split
  · exact decides_pathIn world _
  · next other => simpa [other] using same

theorem isWindows_of_isMac {world : World} (mac : world.isMac = true) :
    world.isWindows = false := by
  have named : world.platform = "darwin" := by
    simpa [World.isMac] using mac
  simp [World.isWindows, named]

theorem decides_preferences :
    Decides world (oneVariable world "APPDATA" "XDG_CONFIG_HOME") (preferences world) := by
  unfold preferences
  split
  · next mac =>
    rw [oneVariable, isWindows_of_isMac mac, mac]
    exact decides_ok _
  · exact decides_config world

theorem decides_runtime :
    Decides world (otherVariable world "XDG_RUNTIME_DIR") (runtime world) := by
  unfold runtime otherVariable
  split
  · exact decides_ok _
  · exact decides_absoluteIn world _

theorem decides_state : Decides world (otherVariable world "XDG_STATE_HOME") (state world) := by
  unfold state otherVariable
  split
  · exact decides_ok _
  · exact decides_variableOr world _ _

theorem data_of_others {world : World} (windows : world.isWindows = false)
    (mac : world.isMac = false) :
    data world = variableOr world "XDG_DATA_HOME" [".local", "share"] := by
  simp [data, windows, mac]

/-- Fonts are below the data, and the directory of the system is there in any case. -/
theorem decides_fonts : Decides world (otherVariable world "XDG_DATA_HOME") (fonts world) := by
  have unfailing : ∀ found : Option Path, ∃ path : Option Path,
      (match found with
        | some path => return some path
        | none =>
          if world.isWindows then
            let system := (world.envVar? "SYSTEMROOT").getD "C:\\Windows"
            return some ((Path.ofText system).child "Fonts")
          else return none : DirResult) = .ok path := by
    intro found
    cases found with
    | some path => exact ⟨_, rfl⟩
    | none => exact ⟨_, (apply_ite Except.ok _ _ _).symm⟩
  refine Decides.bind ?_ fun found _ => unfailing found
  unfold userFonts otherVariable
  cases windows : world.isWindows with
  | true => exact decides_ok _
  | false =>
      cases mac : world.isMac with
      | true => exact decides_ok _
      | false =>
          simp only [Bool.false_eq_true, if_false, Bool.or_self]
          rw [data_of_others windows mac]
          exact (decides_variableOr world _ _).bind_pure _

/--
The variable for programs, and the one for data unless an absolute path is set
for programs.
-/
def programsDemand : Demand :=
  if world.isWindows then ⟨["LOCALAPPDATA"], false⟩
  else if world.isMac then .nothing
  else inTurn ["XDG_BIN_HOME"] ["XDG_DATA_HOME"] (absoluteIn world "XDG_BIN_HOME")

/-- The variable for data counts only where no absolute path is set for programs. -/
theorem decides_userPrograms (windows : world.isWindows = false) (mac : world.isMac = false) :
    Decides world (programsDemand world) (userPrograms world) := by
  have below : Decides world ⟨["XDG_DATA_HOME"], false⟩
      (do return (← data world).map fun data => data.parent.child "bin") := by
    rw [data_of_others windows mac]
    exact (decides_variableOr world _ _).bind_pure _
  have either := (decides_absoluteIn world "XDG_BIN_HOME").orElse below
  simp only [userPrograms, programsDemand, windows, mac, Bool.or_self, Bool.false_eq_true, if_false]
  exact either

/-- Without a folder for programs there is none for data. -/
theorem data_of_userPrograms {world : World} (windows : world.isWindows = false)
    (mac : world.isMac = false) (given : userPrograms world = .ok none) :
    data world = .ok none := by
  simp only [userPrograms, windows, mac, Bool.or_self, Bool.false_eq_true, if_false] at given
  rcases found : absoluteIn world "XDG_BIN_HOME" with fault | _ | path
  · simp [found, Bind.bind, Except.bind] at given
  · rcases folder : data world with fault | _ | path
    · simp [found, folder, Bind.bind, Except.bind] at given
    · rfl
    · simp [found, folder, Bind.bind, Except.bind, Pure.pure, Except.pure] at given
  · simp [found, Bind.bind, Except.bind, Pure.pure, Except.pure] at given

/-- The directory below the home is taken only behind the two variables, and has no fault. -/
theorem decides_programs : Decides world (programsDemand world) (programs world) := by
  cases windows : world.isWindows with
  | true =>
      have none : userPrograms world = .ok none := by
        simp [userPrograms, windows]
      have folder := decides_localData world
      simp only [oneVariable, windows, if_true] at folder
      simp only [programs, none, programsDemand, windows, if_true]
      exact folder.bind_pure _
  | false =>
      cases mac : world.isMac with
      | true =>
          have none : userPrograms world = .ok none := by
            simp [userPrograms, mac]
          have folder : localData world =
              .ok (belowHome world ["Library", "Application Support"]) := by
            simp [localData, data, windows, mac]
          simp only [programs, none, programsDemand, windows, mac, folder, if_true,
            Bool.false_eq_true, if_false]
          cases world.isUnix with
          | true => exact decides_ok _
          | false => exact decides_ok _
      | false =>
          refine (decides_userPrograms world windows mac).bind fun found given => ?_
          cases found with
          | some path => exact ⟨_, rfl⟩
          | none =>
              have missing := data_of_userPrograms windows mac given
              have folder : localData world = .ok none := by
                simpa [localData, windows] using missing
              simp only [windows, folder, Bool.false_eq_true, if_false]
              cases world.isUnix with
              | true => exact ⟨_, rfl⟩
              | false => exact ⟨_, rfl⟩

/-- The variables for caches, when temporary files have to go there. -/
def scratchDemand : Demand :=
  if (world.nonEmpty? "TMPDIR").isSome || world.tempWritable then .nothing
  else oneVariable world "LOCALAPPDATA" "XDG_CACHE_HOME"

/-- The cache is looked for only when nothing can be written among the temporary files. -/
theorem governs_scratch : Governs world (scratchDemand world) (scratch world) := by
  unfold scratch scratchDemand
  cases set : world.nonEmpty? "TMPDIR" with
  | some path => exact governs_pure _
  | none =>
      cases writable : world.tempWritable with
      | true => exact governs_pure _
      | false =>
          simp only [Option.isSome_none, Bool.or_self, Bool.false_eq_true, if_false]
          refine ⟨?_, ?_⟩
          · rw [Traced.outcome_bind, Traced.outcome_bind]
            refine (decides_cache world).bind fun path _ => ?_
            cases path with
            | none => exact ⟨_, rfl⟩
            | some path => exact ⟨_, rfl⟩
          · rcases cache world with fault | _ | path
            · rfl
            · rfl
            · rfl

theorem governs_randomScratch (before : Option String) (randLength : Option Int)
    (pkgName : String) :
    Governs world (scratchDemand world) (randomScratch world before randLength pkgName) :=
  (governs_scratch world).bind_pure _

end BaseDir

open BaseDir

/-! ## User directories -/

namespace UserDir

variable (world : World)

/-- The variables for settings, and the file of user directories among them. -/
def fileDemand : Demand :=
  { oneVariable world "APPDATA" "XDG_CONFIG_HOME" with userFile := true }

/-- Reading the file fails where its folder cannot be told, or where it is not UTF-8. -/
theorem decides_assigned : Decides world (fileDemand world) (assigned world) := by
  intro fault
  have settings := decides_config world
  have same : (fileDemand world).Fails world fault ↔
      (oneVariable world "APPDATA" "XDG_CONFIG_HOME").Fails world fault ∨
        Undecodable world fault := by
    simp [Fails, fileDemand, oneVariable]
  rw [same, ← settings fault]
  rcases found : config world with other | _ | path
  · simp [assigned, file, found, Undecodable, Bind.bind, Except.bind]
  · simp [assigned, file, found, Undecodable, Bind.bind, Except.bind, Pure.pure, Except.pure]
  · cases contents : world.readFile (path.child "user-dirs.dirs").text with
    | error other =>
        simp [assigned, file, found, contents, Undecodable, Bind.bind, Except.bind, Pure.pure,
          Except.pure]
    | ok bytes =>
        cases decoded : decodeFile bytes with
        | error flaw =>
            simp [assigned, file, found, contents, decoded, Undecodable, Bind.bind, Except.bind,
              Pure.pure, Except.pure, throw, throwThe, MonadExceptOf.throw, eq_comm]
        | ok text =>
            simp [assigned, file, found, contents, decoded, Undecodable, Bind.bind, Except.bind,
              Pure.pure, Except.pure]

/-- What a user directory demands: the file, unless a variable is set or the file does not count. -/
def folderDemand (key : String) : Demand :=
  if (home world).isSome && (world.isUnix && !world.isMac) &&
      (world.nonEmpty? ("XDG_" ++ key ++ "_DIR")).isNone then fileDemand world
  else .nothing

/-- A variable that is set keeps the file closed, and so does a system without such a file. -/
theorem decides_folder (key name : String) :
    Decides world (folderDemand world key) (folder world key name) := by
  unfold folder folderDemand
  cases home world with
  | none => exact decides_ok _
  | some home =>
      cases counted : world.isUnix && !world.isMac with
      | false => exact decides_ok _
      | true =>
          cases set : world.nonEmpty? ("XDG_" ++ key ++ "_DIR") with
          | some text =>
              simp only [setting, set]
              exact decides_ok _
          | none =>
              simp only [Option.isSome_some, Option.isNone_none, Bool.and_self, if_true, setting,
                set]
              refine Decides.bind ((decides_assigned world).bind_pure _) fun setting _ => ?_
              cases setting with
              | none => exact ⟨_, rfl⟩
              | some setting => exact ⟨_, rfl⟩

/-- What the folder for templates demands. -/
def templatesDemand : Demand :=
  if world.isMac then .nothing
  else if world.isWindows then ⟨["APPDATA"], false⟩
  else folderDemand world "TEMPLATES"

theorem decides_templates : Decides world (templatesDemand world) (templates world) := by
  have known := decides_data world
  unfold templates templatesDemand
  unfold oneVariable at known
  split
  · exact decides_ok _
  · split
    · next windows =>
      simp only [windows, if_true] at known
      exact known.bind_pure _
    · exact decides_folder world _ _

end UserDir

open UserDir

/-! ## The tables -/

variable (world : World)

/-- What a demand comes to on Windows, and nothing elsewhere. -/
def onWindows (name : String) : Demand :=
  if world.isWindows then ⟨[name], false⟩ else .nothing

/-- What an entry of the table of directories demands. -/
def directoryDemand (ident : String) : Demand :=
  match ident with
  | "cache" | "cli-cache" | "cli_cache" => oneVariable world "LOCALAPPDATA" "XDG_CACHE_HOME"
  | "cfg" | "config" | "pref" | "preference" => oneVariable world "APPDATA" "XDG_CONFIG_HOME"
  | "data" => oneVariable world "APPDATA" "XDG_DATA_HOME"
  | "local-data" | "local_data" | "cli-data" | "cli_data" =>
    oneVariable world "LOCALAPPDATA" "XDG_DATA_HOME"
  | "local-cfg" | "local_cfg" | "local_config" | "cli-cfg" | "cli_cfg" | "cli_config" =>
    oneVariable world "LOCALAPPDATA" "XDG_CONFIG_HOME"
  | "desktop" => folderDemand world "DESKTOP"
  | "doc" | "document" | "documentation" => folderDemand world "DOCUMENTS"
  | "dl" | "download" => folderDemand world "DOWNLOAD"
  | "bin" | "exe" | "executable" => programsDemand world
  | "font" | "typeface" => otherVariable world "XDG_DATA_HOME"
  | "music" | "audio" => folderDemand world "MUSIC"
  | "pic" | "picture" => folderDemand world "PICTURES"
  | "pub" | "public" => folderDemand world "PUBLICSHARE"
  | "runtime" => otherVariable world "XDG_RUNTIME_DIR"
  | "state" => otherVariable world "XDG_STATE_HOME"
  | "template" => templatesDemand world
  | "video" | "movie" => folderDemand world "VIDEOS"
  | "tmp" | "tmp-rand" | "tmp_random" => scratchDemand world
  | "microsoft" => onWindows world "APPDATA"
  | "local-low" | "local_low" => onWindows world "LOCALAPPDATA"
  | _ => .nothing

theorem governs_dirText {demand : Demand} {dir : DirResult} (decides : demand.Decides world dir) :
    demand.Governs world (dirText dir) :=
  (governs_ofExcept decides).bind_pure _

theorem governs_onWindows {demand : Demand} {name : String} {dir : DirResult}
    (decides : demand.Decides world dir) (same : world.isWindows = true → demand = ⟨[name], false⟩)
    (f : Path → Path) :
    (onWindows world name).Governs world
      (if world.isWindows then dirText do return (← dir).map f
        else return none : Traced (Option String)) := by
  unfold onWindows
  cases windows : world.isWindows with
  | true =>
      rw [← same windows]
      exact governs_dirText world (decides.bind_pure _)
  | false => exact governs_pure _

/-- Each identifier of the table has the demand of the directory that it names. -/
theorem governs_directory (pkgName : String) (randLength : Option Int) (ident : String) :
    (directoryDemand world ident).Governs world (directory? world pkgName randLength ident) := by
  unfold directory?
  split
  · exact governs_pure _
  iterate 3 · exact governs_dirText world (decides_cache world)
  iterate 2 · exact governs_dirText world (decides_config world)
  · exact governs_dirText world (decides_data world)
  iterate 4 · exact governs_dirText world (decides_localData world)
  iterate 6 · exact governs_dirText world (decides_localConfig world)
  · exact governs_dirText world (decides_folder world _ _)
  iterate 3 · exact governs_dirText world (decides_folder world _ _)
  iterate 2 · exact governs_dirText world (decides_folder world _ _)
  iterate 3 · exact governs_dirText world (decides_programs world)
  iterate 5 · exact governs_pure _
  iterate 2 · exact governs_dirText world (decides_fonts world)
  iterate 4 · exact governs_dirText world (decides_folder world _ _)
  iterate 2 · exact governs_dirText world (decides_preferences world)
  iterate 2 · exact governs_dirText world (decides_folder world _ _)
  · exact governs_dirText world (decides_runtime world)
  · exact governs_dirText world (decides_state world)
  · exact governs_dirText world (decides_templates world)
  iterate 2 · exact governs_dirText world (decides_folder world _ _)
  · exact (governs_scratch world).bind_pure _
  iterate 2 · exact (governs_randomScratch world _ _ _).bind_pure _
  iterate 15 · exact governs_pure _
  · exact governs_onWindows world (decides_data world) (by simp +contextual [oneVariable]) _
  iterate 2
    · exact governs_onWindows world (decides_localData world) (by simp +contextual [oneVariable]) _
  · -- No other identifier is in the table.
    unfold directoryDemand
    split
    all_goals first
      | exact governs_pure _
      | contradiction

/-- What a project directory demands. -/
def ProjectDir.demand : ProjectDir → Demand
  | .cache => oneVariable world "LOCALAPPDATA" "XDG_CACHE_HOME"
  | .config | .preferences => oneVariable world "APPDATA" "XDG_CONFIG_HOME"
  | .localConfig => oneVariable world "LOCALAPPDATA" "XDG_CONFIG_HOME"
  | .data => oneVariable world "APPDATA" "XDG_DATA_HOME"
  | .localData => oneVariable world "LOCALAPPDATA" "XDG_DATA_HOME"
  | .runtime => otherVariable world "XDG_RUNTIME_DIR"
  | .state => otherVariable world "XDG_STATE_HOME"

theorem ProjectDir.decides_base (dir : ProjectDir) :
    (dir.demand world).Decides world (dir.base world).1 := by
  cases dir with
  | cache =>
      have elsewhere := decides_cache world
      simp only [demand, base]
      split
      · next windows =>
        have data := decides_localData world
        unfold oneVariable at data ⊢
        simpa only [windows, if_true] using data
      · exact elsewhere
  | config => exact decides_config world
  | localConfig => exact decides_localConfig world
  | data => exact decides_data world
  | localData => exact decides_localData world
  | preferences =>
      simp only [demand, base]
      split
      · exact decides_config world
      · exact decides_preferences world
  | runtime => exact decides_runtime world
  | state => exact decides_state world

/-- What an entry of the table of a project demands; without a folder nothing is looked for. -/
def projectDemand (ident : String) (group : ProjectGroup) : Demand :=
  match projectFolder? world group, ProjectDir.ofIdent? ident with
  | some _, some dir => dir.demand world
  | _, _ => .nothing

/-- A project has the demand of the base that its directory stands in. -/
theorem decides_projectEntry (ident : String) (group : ProjectGroup) :
    Decides world (projectDemand world ident group) <| projectEntry? world ident group := by
  unfold projectEntry? projectDemand
  cases projectFolder? world group with
  | none => exact decides_ok _
  | some path =>
      by_cases itself : ident = "path"
      · subst itself
        exact decides_ok _
      · simp only [itself, if_false]
        cases ProjectDir.ofIdent? ident with
        | none => exact decides_ok _
        | some dir =>
            refine Decides.bind_pure ?_ _
            exact (dir.decides_base world).bind_pure _

/-- A random text of a length that is written with too many digits. -/
def Overlong (ident : String) (fault : Fault) : Prop :=
  ∃ digits : List Char, ident.toList = "rand-".toList ++ digits ∧
    (∀ c ∈ digits, Number.isDigit c = true) ∧ Number.digitLimit < digits.length ∧
      fault = .tooManyDigits (some digits.length)

/-- Digits cannot be read exactly when there are more of them than the limit. -/
theorem digitRun_eq_error_iff {s : String} {fault : Fault} :
    digitRun? s = .error fault ↔
      (∀ c ∈ s.toList, Number.isDigit c = true) ∧ Number.digitLimit < s.toList.length ∧
        fault = .tooManyDigits (some s.toList.length) := by
  unfold digitRun?
  dsimp only
  split
  · next unread =>
    simp only [reduceCtorEq, false_iff, not_and]
    intro digits long
    rcases Bool.or_eq_true _ _ ▸ unread with empty | other
    · simp only [List.isEmpty_iff] at empty
      simp [empty] at long
    · simp only [Bool.not_eq_true', List.all_eq_false] at other
      obtain ⟨c, member, stray⟩ := other
      exact (stray (digits c member)).elim
  · next read =>
    have digits : ∀ c ∈ s.toList, Number.isDigit c = true := by
      simp only [Bool.or_eq_true, not_or, Bool.not_eq_true', Bool.not_eq_false,
        List.all_eq_true] at read
      exact read.2
    split
    · next long =>
      constructor
      · intro failed
        cases failed
        exact ⟨digits, long, rfl⟩
      · rintro ⟨-, -, rfl⟩
        rfl
    · next short =>
      constructor
      · intro failed
        cases failed
      · rintro ⟨-, long, -⟩
        exact (short long).elim

/-- Among the produced texts only a random one of overlong length fails. -/
theorem produced_eq_error_iff {randLength : Option Int} {ident : String} {fault : Fault} :
    produced? world randLength ident = .error fault ↔ Overlong ident fault := by
  unfold produced?
  by_cases empty : ident = "empty"
  · subst empty
    simp [Overlong]
  · rw [if_neg empty]
    by_cases like : "rand-".toList <+: ident.toList
    · obtain ⟨written, whole⟩ := like
      simp only [stripLead?_of_append whole.symm]
      refine (bind_eq_error_iff fun length _ => ?_).trans ?_
      · cases length with
        | none => exact ⟨_, rfl⟩
        | some n => exact ⟨_, (apply_ite Except.ok _ _ _).symm⟩
      rw [digitRun_eq_error_iff, String.toList_ofList]
      constructor
      · rintro ⟨digits, long, rfl⟩
        exact ⟨written, whole.symm, digits, long, rfl⟩
      · rintro ⟨digits, same, all, long, rfl⟩
        obtain rfl := List.append_cancel_left (whole.trans same)
        exact ⟨all, long, rfl⟩
    · rw [stripLead?_eq_none like]
      constructor
      · nofun
      · rintro ⟨digits, whole, -⟩
        exact (like ⟨digits, whole.symm⟩).elim

end Table

end PathExpr

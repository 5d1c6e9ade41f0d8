import PathExpr.Proofs.Table.Bases
import PathExpr.Table.Directories

/-!
# Rooted directories

Where the home directory is rooted, a directory of the table is too, outside Windows:
it stands below the home directory or below another rooted directory, or it was read
from a variable or from the file of user directories and turned out to be rooted.
What is set to a relative path is passed over, and what begins with a tilde or speaks
of the home directory is judged once the home has been put in.

Most directories have such a place below the home directory to fall back on, so that
they are never missing.  Temporary directories and the ends of the search path are as
the machine has them, and no more is said of them here.
-/

namespace PathExpr

open PathExpr.Format PathExpr.Text

/-! ## Rooted paths -/

namespace Path

/-- The path has a root, and components as reading leaves them. -/
structure IsRooted (p : Path) : Prop where
  absolute : p.isAbsolute = true
  normal : p.IsNormal

theorem isRooted_ofText {s : String} (absolute : (ofText s).isAbsolute = true) :
    (ofText s).IsRooted :=
  ⟨absolute, isNormal_ofText s⟩

namespace IsRooted

variable {p : Path}

/-- A path behind a rooted one is rooted: it is put below it, or it has a root of its own. -/
theorem append (rooted : p.IsRooted) {q : Path} (normal : q.IsNormal) : (p ++ q).IsRooted where
  absolute := by
    rw [append_def]
    split
    · exact rooted.absolute
    · next other => simpa [isAbsolute] using other
  normal := rooted.normal.append normal

theorem child (rooted : p.IsRooted) (s : String) : (p.child s).IsRooted :=
  rooted.append (isNormal_ofText s)

theorem children (rooted : p.IsRooted) (names : List String) : (p.children names).IsRooted := by
  induction names generalizing p with
  | nil => exact rooted
  | cons name rest ih => exact ih (rooted.child name)

/-- The parent of a rooted path is rooted, and so is that of a root, which is its own parent. -/
theorem parent (rooted : p.IsRooted) : p.parent.IsRooted where
  absolute := rooted.absolute
  normal part member := rooted.normal part (List.dropLast_subset _ member)

/-- The text of a rooted path is read as this path. -/
theorem ofText_text (rooted : p.IsRooted) : ofText p.text = p :=
  Path.ofText_text rooted.normal

end IsRooted

end Path

open PathExpr.Path

namespace Table

/-! ## Searches that settle -/

/-- Unless the search fails, it finds a rooted path. -/
def Settles (result : DirResult) : Prop :=
  ∀ found, result = .ok found → ∃ path, found = some path ∧ path.IsRooted

section Settles

variable {first second : DirResult}

theorem settles_ok {path : Path} (rooted : path.IsRooted) : Settles (.ok (some path)) := by
  intro found same
  cases same
  exact ⟨path, rfl, rooted⟩

/-- A search that settles finds rooted paths only. -/
theorem Settles.finds (settles : Settles first) : Finds IsRooted first := by
  intro path found
  obtain ⟨_, same, rooted⟩ := settles _ found
  cases same
  exact rooted

theorem Settles.ite {condition : Prop} [Decidable condition] (settles : Settles first)
    (settlesOther : Settles second) : Settles (if condition then first else second) := by
  split
  · exact settles
  · exact settlesOther

/-- Settling is kept by what turns rooted paths into rooted ones. -/
theorem Settles.map (settles : Settles first) {f : Path → Path}
    (keeps : ∀ {path : Path}, path.IsRooted → (f path).IsRooted) :
    Settles (do return (← first).map f) := by
  intro found ended
  obtain ⟨read, ok, same⟩ := exists_of_bind_eq_ok ended
  obtain ⟨path, rfl, rooted⟩ := settles read ok
  cases same
  exact ⟨f path, rfl, keeps rooted⟩

/-- What may find a rooted path settles with what settles behind it. -/
theorem Settles.orElse (finds : Finds IsRooted first) (settles : Settles second) :
    Settles (do match ← first with
      | some path => return some path
      | none => second) := by
  intro found ended
  obtain ⟨read, ok, rest⟩ := exists_of_bind_eq_ok ended
  cases read with
  | none => exact settles found rest
  | some path =>
      cases rest
      exact ⟨path, rfl, finds path ok⟩

/-- Behind what settles nothing is searched. -/
theorem Settles.or (settles : Settles first) :
    Settles (do match ← first with
      | some path => return some path
      | none => second) := by
  intro found ended
  obtain ⟨read, ok, rest⟩ := exists_of_bind_eq_ok ended
  obtain ⟨path, rfl, rooted⟩ := settles read ok
  cases rest
  exact ⟨path, rfl, rooted⟩

end Settles

/-! ## Base directories -/

namespace BaseDir

variable {world : World}

/-- A variable with a relative path is passed over, which is where the root comes from. -/
theorem finds_rooted_absoluteIn (name : String) : Finds IsRooted (absoluteIn world name) := by
  intro path found
  refine ⟨?_, finds_absoluteIn world name path found⟩
  obtain ⟨read, ok, kept⟩ := exists_of_bind_eq_ok found
  exact (Option.filter_eq_some_iff.mp (Except.ok.inj kept)).2

section Home

variable {home : Path} (others : world.isWindows = false)
  (known : BaseDir.home world = some home) (rooted : home.isAbsolute = true)

include known rooted

/-- The home directory itself is read, and is rooted by assumption. -/
theorem isRooted_home : home.IsRooted :=
  ⟨rooted, isNormal_home world known⟩

/-- With the home known there is always a path below it. -/
theorem settles_belowHome (names : List String) : Settles (.ok (belowHome world names)) := by
  rw [belowHome, known]
  exact settles_ok ((isRooted_home known rooted).children names)

/-- A variable with no rooted path leaves the place below the home directory. -/
theorem settles_variableOr (name : String) (names : List String) :
    Settles (variableOr world name names) :=
  .orElse (finds_rooted_absoluteIn name) (settles_belowHome known rooted names)

include others

theorem settles_cache : Settles (cache world) := by
  rw [cache, others]
  exact (settles_belowHome known rooted _).ite (settles_variableOr known rooted _ _)

theorem settles_config : Settles (config world) := by
  rw [config, others]
  exact (settles_belowHome known rooted _).ite (settles_variableOr known rooted _ _)

theorem settles_data : Settles (data world) := by
  rw [data, others]
  exact (settles_belowHome known rooted _).ite (settles_variableOr known rooted _ _)

theorem settles_localConfig : Settles (localConfig world) := by
  rw [localConfig, others]
  exact settles_config others known rooted

theorem settles_localData : Settles (localData world) := by
  rw [localData, others]
  exact settles_data others known rooted

theorem settles_preferences : Settles (preferences world) :=
  (settles_belowHome known rooted _).ite (settles_config others known rooted)

theorem settles_fonts : Settles (fonts world) := by
  have settles : Settles (userFonts world) := by
    rw [userFonts, others]
    exact (settles_belowHome known rooted _).ite
      ((settles_data others known rooted).map fun rooted => rooted.child "fonts")
  exact settles.or

/-- Programs stand in a variable, or beside the data, or below the home directory. -/
theorem settles_programs : Settles (programs world) := by
  have finds : Finds IsRooted (userPrograms world) := by
    refine finds_none.ite (Settles.orElse (finds_rooted_absoluteIn _) ?_).finds
    exact (settles_data others known rooted).map fun rooted => rooted.parent.child "bin"
  refine .orElse finds ?_
  rw [others]
  exact (settles_belowHome known rooted _).ite
    ((settles_localData others known rooted).map fun rooted => rooted.child "bin")

omit others

/-- State need not stand: on macOS there is no directory for it. -/
theorem finds_rooted_state : Finds IsRooted (state world) :=
  finds_none.ite (settles_variableOr known rooted _ _).finds

end Home

end BaseDir

/-! ## User directories -/

namespace UserDir

variable {world : World} {home : Path} (known : BaseDir.home world = some home)
  (rooted : home.isAbsolute = true)

include known rooted

/-- A user directory falls back on a name below the home, also when its setting is relative. -/
theorem settles_folder (key name : String) : Settles (folder world key name) := by
  have fallback : (home.child name).IsRooted := (BaseDir.isRooted_home known rooted).child name
  rw [folder, known]
  dsimp only
  split
  · intro found ended
    obtain ⟨read, -, rest⟩ := exists_of_bind_eq_ok ended
    cases read with
    | none => exact settles_ok fallback found rest
    | some setting =>
        -- The home directory is put in before it is asked whether the path has a root.
        dsimp only at rest
        split at rest
        · next absolute => exact settles_ok (isRooted_ofText absolute) found rest
        · exact settles_ok fallback found rest
  · exact settles_ok fallback

theorem finds_rooted_templates (others : world.isWindows = false) :
    Finds IsRooted (templates world) := by
  rw [templates, others]
  exact finds_none.ite (settles_folder known rooted _ _).finds

end UserDir

/-! ## The table -/

/-- The identifiers of temporary directories, of the ends of the search path, and `empty`. -/
def unrooted : List String :=
  ["tmp", "tmp-rand", "tmp_random", "temp", "temporary", "path", "first-path", "first_path",
    "last-path", "last_path", "empty"]

/-- The identifiers that name a directory wherever the home directory is known. -/
def standing : List String :=
  ["home", "cache", "cli-cache", "cli_cache", "cfg", "config", "data", "local-data", "local_data",
    "cli-data", "cli_data", "local-cfg", "local_cfg", "local_config", "cli-cfg", "cli_cfg",
    "cli_config", "desktop", "doc", "document", "documentation", "dl", "download", "bin", "exe",
    "executable", "font", "typeface", "music", "audio", "pic", "picture", "pref", "preference",
    "pub", "public", "video", "movie"]

/-- Unless it fails, a lookup gives the text of a rooted path, or nothing if it need not stand. -/
def GivesRooted (stands : Prop) (lookup : Traced (Option String)) : Prop :=
  ∀ found, lookup.outcome = .ok found →
    (∀ text, found = some text → ∃ path : Path, path.IsRooted ∧ path.text = text) ∧
    (stands → found.isSome = true)

section GivesRooted

variable {stands : Prop}

theorem givesRooted_none (missing : ¬ stands) : GivesRooted stands (return none) := by
  intro found ended
  cases ended
  exact ⟨nofun, fun stood => (missing stood).elim⟩

theorem givesRooted_some {path : Path} (rooted : path.IsRooted) :
    GivesRooted stands (return some path.text) := by
  intro found ended
  cases ended
  refine ⟨?_, fun _ => rfl⟩
  rintro _ ⟨⟩
  exact ⟨path, rooted, rfl⟩

/-- The text of a directory that settles is always there, and is that of a rooted path. -/
theorem givesRooted_dirText {dir : DirResult} (settles : Settles dir) :
    GivesRooted stands (dirText dir) := by
  intro found ended
  rw [dirText, Traced.outcome_bind] at ended
  obtain ⟨read, ok, same⟩ := exists_of_bind_eq_ok ended
  obtain ⟨path, rfl, rooted⟩ := settles read ok
  exact givesRooted_some rooted found same

/-- A search that may find nothing serves where the directory need not stand. -/
theorem givesRooted_dirText_of_finds {dir : DirResult} (finds : Finds IsRooted dir)
    (missing : ¬ stands) : GivesRooted stands (dirText dir) := by
  intro found ended
  rw [dirText, Traced.outcome_bind] at ended
  obtain ⟨read, ok, same⟩ := exists_of_bind_eq_ok ended
  cases read with
  | none => exact givesRooted_none missing found same
  | some path => exact givesRooted_some (finds path ok) found same

end GivesRooted

open BaseDir UserDir

/-- The table, in its own order: each identifier has the search that its getter makes. -/
theorem givesRooted_directory? {world : World} (others : world.isWindows = false) {home : Path}
    (known : BaseDir.home world = some home) (rooted : home.isAbsolute = true) (pkgName : String)
    (randLength : Option Int) {ident : String} (bound : ident ∉ unrooted) :
    GivesRooted (ident ∈ standing) (directory? world pkgName randLength ident) := by
  have folder : ∀ key name stands, GivesRooted stands (dirText (folder world key name)) :=
    fun key name _ => givesRooted_dirText (settles_folder known rooted key name)
  -- The cases are those of the table, in its order; identifiers set apart contradict `bound`.
  unfold directory?
  split
  · rw [known]
    exact givesRooted_some (isRooted_home known rooted)
  iterate 3 · exact givesRooted_dirText (settles_cache others known rooted)
  iterate 2 · exact givesRooted_dirText (settles_config others known rooted)
  · exact givesRooted_dirText (settles_data others known rooted)
  iterate 4 · exact givesRooted_dirText (settles_localData others known rooted)
  iterate 6 · exact givesRooted_dirText (settles_localConfig others known rooted)
  iterate 6 · exact folder _ _ _
  iterate 3 · exact givesRooted_dirText (settles_programs others known rooted)
  iterate 5 · exact absurd (by decide) bound
  iterate 2 · exact givesRooted_dirText (settles_fonts others known rooted)
  iterate 4 · exact folder _ _ _
  iterate 2 · exact givesRooted_dirText (settles_preferences others known rooted)
  iterate 2 · exact folder _ _ _
  · exact givesRooted_dirText_of_finds (finds_none.ite (finds_rooted_absoluteIn _)) (by decide)
  · exact givesRooted_dirText_of_finds (finds_rooted_state known rooted) (by decide)
  · exact givesRooted_dirText_of_finds (finds_rooted_templates known rooted others) (by decide)
  iterate 2 · exact folder _ _ _
  iterate 3 · exact absurd (by decide) bound
  iterate 2
    · split
      · exact givesRooted_some ((isRooted_ofText (by decide)).child pkgName)
      · exact givesRooted_none (by decide)
  iterate 3 · exact absurd (by decide) bound
  iterate 10
    · rw [windowsFolder, others]
      exact givesRooted_none (by decide)
  iterate 3
    · rw [others]
      exact givesRooted_none (by decide)
  · -- No other identifier is in the table.
    refine givesRooted_none fun member => ?_
    simp_all [standing]

/--
Where the home directory is rooted, a lookup that does not fail gives nothing or the
text of a rooted path as it is displayed, outside Windows and but for the identifiers
set apart.  Whatever variables and the file of user directories hold, a directory that
has a place below the home directory is not missing.
-/
theorem directory?_rooted (world : World) (others : world.isWindows = false) {home : Path}
    (known : BaseDir.home world = some home) (rooted : home.isAbsolute = true) (pkgName : String)
    (randLength : Option Int) {ident : String} (bound : ident ∉ unrooted) {found : Option String}
    (ended : (directory? world pkgName randLength ident).outcome = .ok found) :
    (∀ text, found = some text →
      (Path.ofText text).isAbsolute = true ∧ (Path.ofText text).text = text) ∧
    (ident ∈ standing → found.isSome = true) := by
  obtain ⟨given, stands⟩ :=
    givesRooted_directory? others known rooted pkgName randLength bound found ended
  refine ⟨?_, stands⟩
  intro text present
  obtain ⟨path, isRooted, rfl⟩ := given text present
  rw [isRooted.ofText_text]
  exact ⟨isRooted.absolute, rfl⟩

/-- Relative and empty settings, one that begins with a tilde and one that speaks of the home. -/
theorem directory?_rooted_of_relative_settings :
    let world : World :=
      { World.withHome "linux" with
        env := [("HOME", "/home/u"), ("XDG_CACHE_HOME", "cache"), ("XDG_BIN_HOME", ""),
          ("XDG_RUNTIME_DIR", "~v/run"), ("XDG_MUSIC_DIR", "$HOME/../m")]
        users := [("v", "srv/v")]
        files := [("/home/u/.config/user-dirs.dirs", encodeUtf8 "XDG_DESKTOP_DIR=\"desk\"\n")] }
    (directory? world "app" none "runtime").outcome = .ok none ∧
      ∀ ident ∈ ["cache", "bin", "music", "desktop"], ∃ text,
        (directory? world "app" none ident).outcome = .ok (some text) ∧
        (Path.ofText text).isAbsolute = true := by
  intro world
  have runs : ∀ ident ∈ ["cache", "bin", "music", "desktop"],
      (directory? world "app" none ident).outcome.isOk = true := by
    decide +kernel
  refine ⟨by rfl, ?_⟩
  intro ident member
  have apart : ∀ ident ∈ ["cache", "bin", "music", "desktop"],
      ident ∉ unrooted ∧ ident ∈ standing := by
    decide
  have known : BaseDir.home world = some (Path.ofText "/home/u") := by
    decide
  cases ended : (directory? world "app" none ident).outcome with
  | error fault =>
      have ran := runs ident member
      rw [ended] at ran
      cases ran
  | ok found =>
      obtain ⟨given, stands⟩ := directory?_rooted world (by decide) known (by decide) "app" none
        (apart ident member).1 ended
      obtain ⟨text, rfl⟩ := Option.isSome_iff_exists.mp (stands (apart ident member).2)
      exact ⟨text, rfl, (given text rfl).1⟩

end Table

end PathExpr

import PathExpr.Proofs.Format.Reading
import PathExpr.Proofs.Path.Normal
import PathExpr.Table.BaseDir

/-!
# What a search for a directory finds

A search for a directory finds a path or none, or it fails.  Whatever it finds has
the components that reading leaves: a path is read from a variable, and a home may
be put in front of it, which is read as well.
-/

namespace PathExpr

/-- A machine on which nothing is known but the home directory. -/
def World.withHome (platform : String) : World :=
  ⟨[("HOME", "/home/u")], [], [], none, [], platform, "posix", false, "x86_64", "/tmp", true,
    fun _ => Fin.last 61, fun _ _ => false⟩

open PathExpr.Format

namespace Table

/-- Each path that a search may find has the property. -/
def Finds (property : Path → Prop) (result : DirResult) : Prop :=
  ∀ path, result = .ok (some path) → property path

section Finds

variable {property : Path → Prop}

theorem finds_none : Finds property (.ok none) :=
  nofun

theorem Finds.ite {condition : Prop} [Decidable condition] {first second : DirResult}
    (finds : Finds property first) (findsOther : Finds property second) :
    Finds property (if condition then first else second) := by
  split
  · exact finds
  · exact findsOther

/-- What holds of the paths of two searches holds of those found by searching in turn. -/
theorem Finds.orElse {first second : DirResult} (finds : Finds property first)
    (findsOther : Finds property second) :
    Finds property (do match ← first with
      | some path => return some path
      | none => second) := by
  intro path found
  obtain ⟨read, ok, rest⟩ := exists_of_bind_eq_ok found
  cases read with
  | none => exact findsOther path rest
  | some read =>
      cases rest
      exact finds path ok

end Finds

namespace BaseDir

variable (world : World)

/-- The home that a tilde stands for is read from its text, slashes at the end left out. -/
theorem isNormal_tildeHome {component : String} {path : Path}
    (found : world.tildeHome component = .ok path) : path.IsNormal := by
  unfold World.tildeHome at found
  split at found
  · cases found
  · next home known =>
    dsimp only at found
    generalize (if World.dropSlashes home = "" then "/" else World.dropSlashes home) = text at found
    split at found
    · cases found
    · cases found
      exact Path.isNormal_ofText text

/-- A path with a tilde in front gets the components of the home, which is read as well. -/
theorem isNormal_expandHome {text : String} {path : Path}
    (expanded : world.expandHome (Path.ofText text) = .ok path) : path.IsNormal := by
  have normal := Path.isNormal_ofText text
  unfold World.expandHome at expanded
  split at expanded
  · next first rest root parts =>
    split at expanded
    · obtain ⟨home, found, same⟩ := exists_of_bind_eq_ok expanded
      cases same
      intro part member
      rcases List.mem_append.mp member with above | behind
      · exact isNormal_tildeHome world found part above
      · exact normal part (by simp [parts, behind])
    · cases expanded
      exact normal
  · cases expanded
    exact normal

theorem isNormal_home {path : Path} (found : home world = some path) : path.IsNormal := by
  unfold home World.home at found
  cases expanded : world.expandHome (Path.ofText "~") with
  | error fault => simp [expanded, Except.toOption] at found
  | ok home =>
      have normal := isNormal_expandHome world expanded
      simp_all [Except.toOption]

/-- Names below the home directory keep it normal, whatever they hold. -/
theorem finds_belowHome (names : List String) :
    Finds Path.IsNormal (.ok (belowHome world names)) := by
  intro path found
  obtain ⟨home, known, rfl⟩ := Option.map_eq_some_iff.mp (Except.ok.inj found)
  exact (isNormal_home world known).children names

/-- A variable is read as a path, relative or not. -/
theorem finds_pathIn (name : String) : Finds Path.IsNormal (pathIn world name) := by
  intro path found
  unfold pathIn at found
  split at found
  · cases found
  · next text set =>
    obtain ⟨expanded, ok, same⟩ := exists_of_map_eq_ok found
    cases same
    exact isNormal_expandHome world ok

theorem finds_absoluteIn (name : String) : Finds Path.IsNormal (absoluteIn world name) := by
  intro path found
  obtain ⟨read, ok, kept⟩ := exists_of_bind_eq_ok found
  obtain ⟨rfl, -⟩ := Option.filter_eq_some_iff.mp (Except.ok.inj kept)
  exact finds_pathIn world name path ok

/-- Whether a variable is set decides which path is found; both have been read. -/
theorem finds_variableOr (name : String) (names : List String) :
    Finds Path.IsNormal (variableOr world name names) :=
  (finds_absoluteIn world name).orElse (finds_belowHome world names)

theorem finds_cache : Finds Path.IsNormal (cache world) :=
  (finds_pathIn world _).ite ((finds_belowHome world _).ite (finds_variableOr world _ _))

theorem finds_config : Finds Path.IsNormal (config world) :=
  (finds_pathIn world _).ite ((finds_belowHome world _).ite (finds_variableOr world _ _))

theorem finds_data : Finds Path.IsNormal (data world) :=
  (finds_pathIn world _).ite ((finds_belowHome world _).ite (finds_variableOr world _ _))

end BaseDir

end Table

end PathExpr

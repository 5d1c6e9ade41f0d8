import PathExpr.Proofs.Project.Dotted
import PathExpr.Proofs.Table.Bases
import PathExpr.Proofs.Text.Recasing
import PathExpr.Table.ProjectDirs

/-!
# Project directories below their base

The path of a project is read from a text that is made from the names of its group.
In these names there are no dots, and no two dots of the text stand side by side.  So
the path never leads up.  Yet a slash may stand in a name, and where the first name
of the text begins with one, the path has a root and replaces the base that it is
joined to.
-/

namespace PathExpr

open PathExpr.Text

namespace Table

/-! ## Texts without blanks -/

theorem head?_replaceBlanks (filler : List Char) {c : Char} (dark : isBlank c = false)
    (rest : List Char) : (replaceBlanks filler (c :: rest)).head? = some c := by
  cases rest <;> simp [replaceBlanks, dark]

theorem mem_replaceBlanks {filler cs : List Char} {c : Char}
    (member : c ∈ replaceBlanks filler cs) : c ∈ filler ∨ c ∈ cs := by
  fun_induction replaceBlanks filler cs with
  | case1 => cases member
  | case2 d blank => exact .inl member
  | case3 d dark => exact .inr member
  | case4 d e rest blank blankNext ih =>
      exact (ih member).imp_right (List.mem_cons_of_mem d)
  | case5 d e rest blank darkNext ih =>
      rcases List.mem_append.mp member with filled | behind
      · exact .inl filled
      · exact (ih behind).imp_right (List.mem_cons_of_mem d)
  | case6 d e rest dark ih =>
      rcases List.mem_cons.mp member with rfl | behind
      · exact .inr List.mem_cons_self
      · exact (ih behind).imp_right (List.mem_cons_of_mem d)

/-- What a trimmed text begins with is no blank and stays. -/
theorem head?_withoutBlanks (filler : String) {s : String} (trimmed : IsTrimmed s.toList) :
    (withoutBlanks filler s).toList.head? = s.toList.head? := by
  rw [withoutBlanks, String.toList_ofList]
  cases whole : s.toList with
  | nil => rfl
  | cons c rest =>
      have dark := trimmed.head c (by simp [whole])
      rw [head?_replaceBlanks _ dark, List.head?_cons]

theorem mem_withoutBlanks {filler s : String} {c : Char}
    (member : c ∈ (withoutBlanks filler s).toList) : c ∈ filler.toList ∨ c ∈ s.toList := by
  rw [withoutBlanks, String.toList_ofList] at member
  exact mem_replaceBlanks member

/-! ## The text of a project's path -/

variable (world : World) (group : ProjectGroup)

/-- The text that the path of a project is read from, outside Windows. -/
def folderText : String :=
  if world.isMac then
    join "." ((group.fields.filter (· != "")).map fun name => withoutBlanks "-" (trim name))
  else withoutBlanks "" (lower (trim group.application))

/-- The name that this text begins with. -/
def leadingName : String :=
  if world.isMac then (group.fields.find? (· != "")).getD "" else group.application

variable {world group}

theorem projectFolder_eq (others : world.isWindows = false) :
    projectFolder world group = Path.ofText (folderText world group) := by
  unfold projectFolder folderText
  rw [others, if_neg Bool.false_ne_true]
  split <;> rfl

/-- A name with its blanks filled, as it stands in the text on macOS. -/
theorem filled_name {name : String} (named : ProjectGroup.IsName name) (nonempty : name ≠ "") :
    (withoutBlanks "-" (trim name)).toList.head? = name.toList.head? ∧
      withoutBlanks "-" (trim name) ≠ "" ∧ '.' ∉ (withoutBlanks "-" (trim name)).toList := by
  have kept : trim name = name := trim_eq_self_iff.mpr named.trimmed
  have begins := head?_withoutBlanks "-" named.trimmed
  rw [kept]
  refine ⟨begins, ?_, ?_⟩
  · intro empty
    rw [empty] at begins
    exact nonempty (by simpa using List.head?_eq_none_iff.mp begins.symm)
  · intro dotted
    rcases mem_withoutBlanks dotted with filler | inside
    · simp at filler
    · exact named.undotted inside

/-- The names that are written on macOS. -/
theorem named_of_mem_filter (named : ∀ name ∈ group.fields, ProjectGroup.IsName name)
    {name : String} (member : name ∈ group.fields.filter (· != "")) :
    ProjectGroup.IsName name ∧ name ≠ "" := by
  obtain ⟨field, nonempty⟩ := List.mem_filter.mp member
  exact ⟨named name field, by simpa using nonempty⟩

theorem isName_application (named : ∀ name ∈ group.fields, ProjectGroup.IsName name) :
    ProjectGroup.IsName group.application :=
  named group.application (by simp [ProjectGroup.fields])

/-- The text begins with a slash exactly where its first name does. -/
theorem head?_folderText (named : ∀ name ∈ group.fields, ProjectGroup.IsName name) :
    (folderText world group).toList.head? = some '/' ↔
      (leadingName world group).toList.head? = some '/' := by
  unfold folderText leadingName
  split
  · rw [← List.head?_filter]
    cases names : group.fields.filter (· != "") with
    | nil => simp [join]
    | cons first rest =>
        have member : first ∈ group.fields.filter (· != "") := by simp [names]
        obtain ⟨isName, nonempty⟩ := named_of_mem_filter named member
        obtain ⟨begins, filled, -⟩ := filled_name isName nonempty
        rw [List.map_cons, head?_join filled, begins]
        rfl
  · have isName := isName_application named
    have recased := recased_lowerFrom [] group.application.toList
    rw [trim_eq_self_iff.mpr isName.trimmed, head?_withoutBlanks]
    · rw [lower, String.toList_ofList]
      exact recased.head?_eq_iff (by decide)
    · rw [lower, String.toList_ofList]
      exact recased.isTrimmed isName.trimmed

/-- Between two dots that stand side by side there is an empty piece. -/
theorem empty_mem_split_of_dots {s : String} (dots : ['.', '.'] <:+: s.toList) :
    "" ∈ split "." s := by
  obtain ⟨before, after, whole⟩ := dots
  have pieces := split_singleton '.' s
  have written : s.toList = before ++ '.' :: ([] ++ '.' :: after) := by
    simp [← whole]
  rw [written, List.splitOn_append_cons_self, List.splitOn_append_cons_self] at pieces
  have member : "" ∈ (before.splitOn '.' ++ ([[]] ++ after.splitOn '.')).map String.ofList :=
    List.mem_map.mpr ⟨[], by simp, rfl⟩
  exact pieces ▸ member

theorem no_dots_folderText (named : ∀ name ∈ group.fields, ProjectGroup.IsName name) :
    ¬ ['.', '.'] <:+: (folderText world group).toList := by
  intro dots
  unfold folderText at dots
  -- On macOS the dots are those between pieces, none of them empty; elsewhere there is no dot.
  split at dots
  · have filled : ∀ piece ∈ (group.fields.filter (· != "")).map fun name =>
        withoutBlanks "-" (trim name), piece ≠ "" ∧ '.' ∉ piece.toList := by
      intro piece member
      obtain ⟨name, inside, rfl⟩ := List.mem_map.mp member
      obtain ⟨isName, nonempty⟩ := named_of_mem_filter named inside
      exact (filled_name isName nonempty).2
    generalize (group.fields.filter (· != "")).map (fun name => withoutBlanks "-" (trim name)) =
      pieces at filled dots
    by_cases none : pieces = []
    · rw [none] at dots
      simp [join] at dots
    · have divided : split "." (join "." pieces) = pieces :=
        @split_join '.' _ none fun piece member => (filled piece member).2
      have member := empty_mem_split_of_dots dots
      rw [divided] at member
      exact (filled "" member).1 rfl
  · have isName := isName_application named
    have recased := recased_lowerFrom [] group.application.toList
    have dot := dots.subset (List.mem_cons_self (a := '.'))
    rw [trim_eq_self_iff.mpr isName.trimmed] at dot
    rcases mem_withoutBlanks dot with filler | inside
    · simp at filler
    · rw [lower, String.toList_ofList] at inside
      exact isName.undotted ((recased.mem_iff (by decide)).mp inside)

/-! ## Below the base -/

/-- The path of a project does not lead up, and it has a root exactly where its text begins so. -/
theorem projectFolder_shape (others : world.isWindows = false)
    (named : ∀ name ∈ group.fields, ProjectGroup.IsName name) :
    ((projectFolder world group).isAbsolute = true ↔
      (leadingName world group).toList.head? = some '/') ∧
    ".." ∉ (projectFolder world group).parts := by
  rw [projectFolder_eq others]
  refine ⟨Path.isAbsolute_ofText_iff.trans (head?_folderText named), fun member => ?_⟩
  exact no_dots_folderText named (Path.infix_of_mem_components member)

/-- Joined to a base, a path that has no root, is not empty and does not lead up stays below it. -/
theorem isBelow_of_relative {base folder : Path} (relative : folder.isAbsolute = false)
    (written : folder.text ≠ ".") (level : ".." ∉ folder.parts) :
    (base ++ folder).IsBelow base := by
  have root := Path.isAbsolute_eq_false_iff.mp relative
  rw [Path.append_def, if_pos root]
  refine ⟨rfl, folder.parts, ?_, rfl, level⟩
  intro empty
  obtain ⟨_, _⟩ := folder
  subst root empty
  exact written rfl

/-! ## Bases -/

theorem ProjectDir.finds_base (dir : ProjectDir) : Finds Path.IsNormal (dir.base world).1 := by
  have localAppData := BaseDir.finds_pathIn world "LOCALAPPDATA"
  cases dir with
  | cache =>
      simp only [base]
      split
      · exact localAppData.ite (BaseDir.finds_data world)
      · exact BaseDir.finds_cache world
  | config => exact BaseDir.finds_config world
  | localConfig => exact localAppData.ite (BaseDir.finds_config world)
  | data => exact BaseDir.finds_data world
  | localData => exact localAppData.ite (BaseDir.finds_data world)
  | preferences =>
      simp only [base]
      split
      · exact BaseDir.finds_config world
      · exact (BaseDir.finds_belowHome world _).ite (BaseDir.finds_config world)
  | runtime => exact finds_none.ite (BaseDir.finds_absoluteIn world _)
  | state => exact finds_none.ite (BaseDir.finds_variableOr world _ _)

/-- Outside Windows nothing is put below the path of a project. -/
theorem ProjectDir.base_snd (others : world.isWindows = false) (dir : ProjectDir) :
    (dir.base world).2 = [] := by
  cases dir <;> simp [base, others]

/-! ## Entries -/

theorem eq_of_projectFolder? {folder : Path}
    (known : projectFolder? world group = some folder) :
    folder = projectFolder world group ∧ folder.text ≠ "." := by
  unfold projectFolder? at known
  split at known
  · cases known
  · dsimp only at known
    split at known
    · cases known
    · next written =>
      cases known
      exact ⟨rfl, written⟩

/-- An entry of a project is its base with the path of the project joined to it. -/
theorem projectEntry?_eq (others : world.isWindows = false) {folder : Path}
    (known : projectFolder? world group = some folder) {ident : String} {dir : ProjectDir}
    (named : ProjectDir.ofIdent? ident = some dir) :
    projectEntry? world ident group =
      (dir.base world).1.map fun base => base.map fun base => (base ++ folder).text := by
  have other : ident ≠ "path" := by
    rintro rfl
    cases named
  have below := dir.base_snd others
  unfold projectEntry?
  rw [known]
  simp only [other, if_false, named, ProjectDir.locate, below, Path.children_nil]
  cases (dir.base world).1 with
  | error fault => rfl
  | ok base => cases base <;> rfl

/-- What the entry for a directory is, by the base of that directory. -/
theorem projectEntry?_of_named (others : world.isWindows = false) {chunk : String}
    (read : ProjectGroup.parse? chunk = some group) {folder : Path}
    (known : projectFolder? world group = some folder) {ident : String} {dir : ProjectDir}
    (named : ProjectDir.ofIdent? ident = some dir) :
    match (dir.base world).1 with
    | .error fault => projectEntry? world ident group = .error fault
    | .ok none => projectEntry? world ident group = .ok none
    | .ok (some base) => ∃ text, projectEntry? world ident group = .ok (some text) ∧
        ((Path.ofText text).IsBelow base ↔
          (leadingName world group).toList.head? ≠ some '/' ∨ folder.IsBelow base) ∧
        ((leadingName world group).toList.head? = some '/' → Path.ofText text = folder) := by
  have entry := projectEntry?_eq others known named
  obtain ⟨rfl, written⟩ := eq_of_projectFolder? known
  obtain ⟨rooted, level⟩ := projectFolder_shape others (ProjectGroup.isName_of_parse? read)
  cases found : (dir.base world).1 with
  | error fault =>
      rw [found] at entry
      exact entry
  | ok result =>
      rw [found] at entry
      cases result with
      | none => exact entry
      | some base =>
          have normal : (base ++ projectFolder world group).IsNormal := by
            refine (dir.finds_base base found).append ?_
            rw [projectFolder_eq others]
            exact Path.isNormal_ofText _
          refine ⟨_, entry, ?_⟩
          rw [Path.ofText_text normal]
          cases absolute : (projectFolder world group).isAbsolute with
          | false =>
              have bare : (leadingName world group).toList.head? ≠ some '/' := by
                simpa [absolute] using rooted
              have below : (base ++ projectFolder world group).IsBelow base :=
                isBelow_of_relative absolute written level
              refine ⟨⟨fun _ => .inl bare, fun _ => below⟩, ?_⟩
              intro slash
              exact (bare slash).elim
          | true =>
              have slash := rooted.mp absolute
              have alone := Path.append_of_absolute base absolute
              exact ⟨by simp [alone, slash], fun _ => alone⟩

/--
Outside Windows an entry of a project, other than its path, is missing where the
identifier names no directory.  It is missing or fails exactly where the base of the
directory is or does.  Otherwise it stands below the base if the first name that is
written does not begin with a slash.  If it does, the entry is the path of the project
alone, whatever the base.
-/
theorem projectEntry?_below_iff (others : world.isWindows = false) {chunk : String}
    (read : ProjectGroup.parse? chunk = some group) {folder : Path}
    (known : projectFolder? world group = some folder) {ident : String} (other : ident ≠ "path") :
    match ProjectDir.ofIdent? ident with
    | none => projectEntry? world ident group = .ok none
    | some dir =>
      match (dir.base world).1 with
      | .error fault => projectEntry? world ident group = .error fault
      | .ok none => projectEntry? world ident group = .ok none
      | .ok (some base) => ∃ text, projectEntry? world ident group = .ok (some text) ∧
          ((Path.ofText text).IsBelow base ↔
            (leadingName world group).toList.head? ≠ some '/' ∨ folder.IsBelow base) ∧
          ((leadingName world group).toList.head? = some '/' → Path.ofText text = folder) := by
  cases named : ProjectDir.ofIdent? ident with
  | none => simp [known, other, named, projectEntry?]
  | some dir => exact projectEntry?_of_named others read known named

/-- A slash within the name makes folders, and blanks are left out. -/
theorem projectEntry?_below_iff_of_inner_slash :
    let world := World.withHome "linux"
    let group : ProjectGroup := ⟨"com", "x", "My /App"⟩
    world.isWindows = false ∧ ProjectGroup.parse? "$proj(com.x.My /App)" = some group ∧
      projectFolder? world group = some ⟨.relative, ["my", "app"]⟩ ∧
      ∃ text, projectEntry? world "config" group = .ok (some text) ∧
        (Path.ofText text).IsBelow ⟨.single, ["home", "u", ".config"]⟩ := by
  intro world group
  have read : ProjectGroup.parse? "$proj(com.x.My /App)" = some group := by
    decide
  have known : projectFolder? world group = some ⟨.relative, ["my", "app"]⟩ := by
    decide +kernel
  have named : ProjectDir.ofIdent? "config" = some .config := rfl
  have found : (ProjectDir.config.base world).1 =
      .ok (some ⟨.single, ["home", "u", ".config"]⟩) := by
    rfl
  have entry := @projectEntry?_below_iff world group rfl _ read _ known "config" (by decide)
  simp only [named, found] at entry
  obtain ⟨text, ok, below, -⟩ := entry
  exact ⟨rfl, read, known, text, ok, below.mpr (.inl (by decide))⟩

/-- A name that begins with a slash leads out of the base, on Linux and on macOS. -/
theorem slash_leaves_base :
    let group : ProjectGroup := ⟨"/etc", "", "/etc"⟩
    ProjectGroup.parse? "$proj(/etc)" = some group ∧
      ∀ entry ∈ [("linux", "/etc"), ("darwin", "/etc./etc")], ∃ base,
        (ProjectDir.config.base (World.withHome entry.1)).1 = .ok (some base) ∧
          projectEntry? (World.withHome entry.1) "config" group = .ok (some entry.2) ∧
          ¬ (Path.ofText entry.2).IsBelow base := by
  intro group
  have named : ProjectDir.ofIdent? "config" = some .config := rfl
  refine ⟨by decide, ?_⟩
  simp only [List.forall_mem_cons]
  refine ⟨⟨⟨.single, ["home", "u", ".config"]⟩, rfl, ?_, ?_⟩,
    ⟨⟨.single, ["home", "u", "Library", "Application Support"]⟩, rfl, ?_, ?_⟩, nofun⟩
  · have known : projectFolder? (World.withHome "linux") group = some ⟨.single, ["etc"]⟩ := by
      decide +kernel
    rw [projectEntry?_eq rfl known named]
    rfl
  · rintro ⟨-, more, -, parts, -⟩
    have first := (List.cons.inj parts).1
    exact absurd first (by decide)
  · have known : projectFolder? (World.withHome "darwin") group =
        some ⟨.single, ["etc.", "etc"]⟩ := by
      decide +kernel
    rw [projectEntry?_eq rfl known named]
    rfl
  · rintro ⟨-, more, -, parts, -⟩
    have first := (List.cons.inj parts).1
    exact absurd first (by decide)

end Table

end PathExpr

import Mathlib.Data.List.Nodup
import PathExpr.Proofs.Table.Bases
import PathExpr.Proofs.Text.Lines
import PathExpr.Proofs.Text.Trim
import PathExpr.Proofs.Text.Utf8
import PathExpr.Table.UserDir

/-!
# The file of user directories

A line assigns a value to a key when it has the key, an equals sign and the quoted
value, with blanks wherever they may stand.  The quote that closes a value is the last
one of the line, so that a value may have quotes in it and a line assigns one value to
one key at most.

A file is read line by line, and what has been read is a record of the lines so far:
each key has the value that was last assigned to it, and the keys stand in the order
in which they were first met.  This determines the record.
-/

namespace PathExpr.Table.UserDir

open PathExpr.Text

/-! ## Lines -/

/-- Capital letters of ASCII between `XDG_` and `_DIR`. -/
def IsKey (key : List Char) : Prop :=
  ∃ capitals : List Char, capitals ≠ [] ∧ (∀ c ∈ capitals, 'A' ≤ c ∧ c ≤ 'Z') ∧
    key = "XDG_".toList ++ capitals ++ "_DIR".toList

/-- The line assigns the value to the key; only blanks are behind the closing quote. -/
def Assigns (line : List Char) (key value : String) : Prop :=
  IsKey key.toList ∧ ∃ lead before behind trail : List Char,
    AllBlank lead ∧ AllBlank before ∧ AllBlank behind ∧ AllBlank trail ∧
    line = lead ++ key.toList ++ before ++
      '=' :: (behind ++ '"' :: (value.toList ++ '"' :: trail))

theorem isCapital_iff {c : Char} : isCapital c = true ↔ 'A' ≤ c ∧ c ≤ 'Z' := by
  simp [isCapital]

/-- What a list begins with behind its blanks. -/
theorem dropWhile_isBlank_eq_cons_iff {c : Char} (mark : isBlank c = false)
    {cs rest : List Char} :
    cs.dropWhile isBlank = c :: rest ↔ ∃ lead, AllBlank lead ∧ cs = lead ++ c :: rest := by
  constructor
  · intro dropped
    refine ⟨cs.takeWhile isBlank, fun c member => List.mem_takeWhile_imp member, ?_⟩
    rw [← dropped, List.takeWhile_append_dropWhile]
  · rintro ⟨lead, blank, rfl⟩
    rw [List.dropWhile_append_of_pos blank, List.dropWhile_cons_of_neg (by simp [mark])]

theorem IsKey.dropWhile_isBlank {key : List Char} (isKey : IsKey key) (rest : List Char) :
    (key ++ rest).dropWhile isBlank = key ++ rest := by
  obtain ⟨capitals, -, -, rfl⟩ := isKey
  rfl

theorem takeKey?_eq_some_iff {line key rest : List Char} :
    takeKey? line = some (key, rest) ↔ IsKey key ∧ line = key ++ rest := by
  constructor
  · intro taken
    obtain ⟨body, begins, taken⟩ := Option.bind_eq_some_iff.mp taken
    obtain ⟨tail, ends, taken⟩ := Option.bind_eq_some_iff.mp taken
    rw [afterLead?_eq_some] at begins ends
    split at taken
    · cases taken
    · next filled =>
      cases taken
      refine ⟨⟨body.takeWhile isCapital, by simpa using filled, ?_, rfl⟩, ?_⟩
      · exact fun c member => isCapital_iff.mp (List.mem_takeWhile_imp member)
      · rw [List.append_assoc, ← ends, List.append_assoc, List.takeWhile_append_dropWhile, begins]
  · rintro ⟨⟨capitals, filled, run, rfl⟩, rfl⟩
    have run : ∀ c ∈ capitals, isCapital c = true :=
      fun c member => isCapital_iff.mpr (run c member)
    have mark : isCapital '_' = false := by
      decide
    have front : (capitals ++ ("_DIR".toList ++ rest)).takeWhile isCapital = capitals := by
      rw [List.takeWhile_append_of_pos run]
      simp [mark]
    have behind : (capitals ++ ("_DIR".toList ++ rest)).dropWhile isCapital =
        "_DIR".toList ++ rest := by
      rw [List.dropWhile_append_of_pos run]
      simp [mark]
    rw [takeKey?, List.append_assoc, List.append_assoc, afterLead?_append]
    simp only [Option.bind_eq_bind, Option.bind_some, front, behind, afterLead?_append]
    simp [filled]

theorem quotedValue?_eq_some_iff {rest value : List Char} :
    quotedValue? rest = some value ↔
      ∃ trail, AllBlank trail ∧ rest = '"' :: (value ++ '"' :: trail) := by
  have mark : isBlank '"' = false := by
    decide
  constructor
  · intro read
    unfold quotedValue? at read
    split at read
    · next body =>
      split at read
      · next turned closed =>
        cases read
        obtain ⟨lead, blank, whole⟩ := (dropWhile_isBlank_eq_cons_iff mark).mp closed
        refine ⟨lead.reverse, fun c member => blank c (List.mem_reverse.mp member), ?_⟩
        rw [← List.reverse_reverse body, whole]
        simp
      · cases read
    · cases read
  · rintro ⟨trail, blank, rfl⟩
    have closed : (value ++ '"' :: trail).reverse.dropWhile isBlank = '"' :: value.reverse :=
      (dropWhile_isBlank_eq_cons_iff mark).mpr
        ⟨trail.reverse, fun c member => blank c (List.mem_reverse.mp member), by simp⟩
    simp only [quotedValue?, closed, List.reverse_reverse]

/-- The reader takes the lines that assign, and nothing else from them. -/
theorem assignment?_eq_some_iff {line : List Char} {key value : String} :
    assignment? (String.ofList line) = some (key, value) ↔ Assigns line key value := by
  have equals : isBlank '=' = false := by
    decide
  have quote : isBlank '"' = false := by
    decide
  constructor
  · intro read
    obtain ⟨⟨_, rest⟩, taken, read⟩ := Option.bind_eq_some_iff.mp read
    dsimp only at read
    split at read
    · next behind found =>
      obtain ⟨body, quoted, same⟩ := Option.bind_eq_some_iff.mp read
      cases same
      obtain ⟨isKey, begins⟩ := takeKey?_eq_some_iff.mp taken
      obtain ⟨trail, trailBlank, opened⟩ := quotedValue?_eq_some_iff.mp quoted
      obtain ⟨before, beforeBlank, rfl⟩ := (dropWhile_isBlank_eq_cons_iff equals).mp found
      obtain ⟨between, betweenBlank, rfl⟩ := (dropWhile_isBlank_eq_cons_iff quote).mp opened
      have leadBlank : ∀ c ∈ line.takeWhile isBlank, isBlank c = true := by
        intro c member
        exact List.mem_takeWhile_imp member
      refine ⟨by rwa [String.toList_ofList], line.takeWhile isBlank, before, between, trail,
        leadBlank, beforeBlank, betweenBlank, trailBlank, ?_⟩
      rw [String.toList_ofList] at begins ⊢
      rw [String.toList_ofList, List.append_assoc, List.append_assoc, ← begins,
        List.takeWhile_append_dropWhile]
    · cases read
  · rintro ⟨isKey, lead, before, behind, trail, leadBlank, beforeBlank, behindBlank, trailBlank,
      rfl⟩
    let quoted := '"' :: (value.toList ++ '"' :: trail)
    let signed := '=' :: (behind ++ quoted)
    have start : (lead ++ key.toList ++ before ++ signed).dropWhile isBlank =
        key.toList ++ (before ++ signed) := by
      rw [List.append_assoc, List.append_assoc, List.dropWhile_append_of_pos leadBlank,
        isKey.dropWhile_isBlank]
    have taken : takeKey? (key.toList ++ (before ++ signed)) =
        some (key.toList, before ++ signed) :=
      takeKey?_eq_some_iff.mpr ⟨isKey, rfl⟩
    have sign : (before ++ signed).dropWhile isBlank = '=' :: (behind ++ quoted) :=
      (dropWhile_isBlank_eq_cons_iff equals).mpr ⟨before, beforeBlank, rfl⟩
    have opened : (behind ++ quoted).dropWhile isBlank = quoted :=
      (dropWhile_isBlank_eq_cons_iff quote).mpr ⟨behind, behindBlank, rfl⟩
    have read : quotedValue? quoted = some value.toList :=
      quotedValue?_eq_some_iff.mpr ⟨trail, trailBlank, rfl⟩
    rw [assignment?, String.toList_ofList, start, taken]
    simp only [Option.bind_eq_bind, Option.bind_some, sign, opened, read, String.ofList_toList]

theorem Assigns.unique {line : List Char} {key value other otherValue : String}
    (assigns : Assigns line key value) (assignsOther : Assigns line other otherValue) :
    key = other ∧ value = otherValue := by
  have same := (assignment?_eq_some_iff.mpr assigns).symm.trans
    (assignment?_eq_some_iff.mpr assignsOther)
  cases same
  exact ⟨rfl, rfl⟩

/-! ## Records -/

/-- The line assigns a value to the key. -/
def Binds (line : List Char) (key : String) : Prop :=
  ∃ value, Assigns line key value

/-- The last of the lines that bind the key assigns the value to it. -/
def AssignedLast (lines : List (List Char)) (key value : String) : Prop :=
  ∃ before line after, lines = before ++ line :: after ∧ Assigns line key value ∧
    ∀ other ∈ after, ¬ Binds other key

/-- There is a point in the lines where the first key has been bound and the second has not. -/
def BoundBefore (lines : List (List Char)) (first second : String) : Prop :=
  ∃ passed, passed <+: lines ∧ (∃ line ∈ passed, Binds line first) ∧
    ∀ line ∈ passed, ¬ Binds line second

/-- What a record of the assignments in some lines has to be. -/
structure Records (lines : List (List Char)) (bound : List (String × String)) : Prop where
  nodup : (bound.map Prod.fst).Nodup
  last : ∀ key value, bound.lookup key = some value ↔ AssignedLast lines key value
  order : (bound.map Prod.fst).Pairwise (BoundBefore lines)

theorem assignedLast_append_singleton_iff {lines : List (List Char)} {line : List Char}
    {key value : String} :
    AssignedLast (lines ++ [line]) key value ↔
      Assigns line key value ∨ ¬ Binds line key ∧ AssignedLast lines key value := by
  constructor
  · rintro ⟨before, found, after, whole, assigns, unbound⟩
    rcases List.eq_nil_or_concat after with rfl | ⟨front, last, rfl⟩
    · obtain ⟨-, same⟩ := List.append_singleton_inj.mp whole
      exact .inl (same ▸ assigns)
    · rw [List.concat_eq_append, ← List.cons_append, ← List.append_assoc] at whole
      obtain ⟨rfl, rfl⟩ := List.append_singleton_inj.mp whole
      refine .inr ⟨unbound _ (by simp), before, found, front, rfl, assigns, ?_⟩
      exact fun other member => unbound other (by simp [member])
  · rintro (assigns | ⟨other, before, found, after, rfl, assigns, unbound⟩)
    · exact ⟨lines, line, [], rfl, assigns, nofun⟩
    · refine ⟨before, found, after ++ [line], by simp, assigns, ?_⟩
      intro behind member
      rcases List.mem_append.mp member with inside | last
      · exact unbound behind inside
      · rwa [List.mem_singleton.mp last]

/-- A key that is bound at all has a value that was last assigned. -/
theorem exists_assignedLast {lines : List (List Char)} {key : String}
    (bound : ∃ line ∈ lines, Binds line key) : ∃ value, AssignedLast lines key value := by
  induction lines using List.reverseRecOn with
  | nil => simp at bound
  | append_singleton lines line ih =>
      by_cases binds : Binds line key
      · obtain ⟨value, assigns⟩ := binds
        exact ⟨value, assignedLast_append_singleton_iff.mpr (.inl assigns)⟩
      · obtain ⟨found, member, bindsFound⟩ := bound
        have inside : found ∈ lines := by
          rcases List.mem_append.mp member with inside | last
          · exact inside
          · exact (binds (List.mem_singleton.mp last ▸ bindsFound)).elim
        obtain ⟨value, assigned⟩ := ih ⟨found, inside, bindsFound⟩
        exact ⟨value, assignedLast_append_singleton_iff.mpr (.inr ⟨binds, assigned⟩)⟩

theorem AssignedLast.binds {lines : List (List Char)} {key value : String}
    (assigned : AssignedLast lines key value) : ∃ line ∈ lines, Binds line key := by
  obtain ⟨before, line, after, rfl, assigns, -⟩ := assigned
  exact ⟨line, by simp, value, assigns⟩

theorem BoundBefore.append {lines : List (List Char)} {first second : String}
    (boundBefore : BoundBefore lines first second) (more : List (List Char)) :
    BoundBefore (lines ++ more) first second := by
  obtain ⟨passed, isPrefix, binds, unbound⟩ := boundBefore
  exact ⟨passed, isPrefix.trans (List.prefix_append lines more), binds, unbound⟩

theorem BoundBefore.asymm {lines : List (List Char)} {first second : String}
    (boundBefore : BoundBefore lines first second) : ¬ BoundBefore lines second first := by
  rintro ⟨passed, isPrefix, ⟨line, member, binds⟩, unbound⟩
  obtain ⟨passedFirst, isPrefixFirst, ⟨lineFirst, memberFirst, bindsFirst⟩, unboundFirst⟩ :=
    boundBefore
  rcases List.prefix_or_prefix_of_prefix isPrefix isPrefixFirst with shorter | longer
  · exact unboundFirst line (shorter.subset member) binds
  · exact unbound lineFirst (longer.subset memberFirst) bindsFirst

/-! ## Binding a key -/

theorem lookup_cons (key value other : String) (bound : List (String × String)) :
    ((key, value) :: bound).lookup other =
      if other = key then some value else bound.lookup other := by
  by_cases same : other = key
  · simp [same]
  · simp [List.lookup_cons, same, beq_false_of_ne same]

theorem lookup_assign (key value other : String) (bound : List (String × String)) :
    (assign key value bound).lookup other =
      if other = key then some value else bound.lookup other := by
  fun_induction assign key value bound with
  | case1 => exact lookup_cons key value other []
  | case2 found rest =>
      rw [lookup_cons, lookup_cons]
      split
      · rfl
      · rfl
  | case3 k v rest different ih =>
      rw [lookup_cons, lookup_cons, ih]
      by_cases same : other = k
      · subst same
        simp [different]
      · simp [same]

theorem keys_assign (key value : String) (bound : List (String × String)) :
    (assign key value bound).map Prod.fst =
      if key ∈ bound.map Prod.fst then bound.map Prod.fst
      else bound.map Prod.fst ++ [key] := by
  fun_induction assign key value bound with
  | case1 => rfl
  | case2 found rest => simp
  | case3 k v rest different ih =>
      rw [List.map_cons, ih]
      by_cases member : key ∈ rest.map Prod.fst <;> simp [member, Ne.symm different]

theorem mem_iff_lookup {bound : List (String × String)} (nodup : (bound.map Prod.fst).Nodup)
    {key value : String} : (key, value) ∈ bound ↔ bound.lookup key = some value := by
  induction bound with
  | nil => simp
  | cons entry rest ih =>
      obtain ⟨absent, nodup⟩ := List.nodup_cons.mp nodup
      rw [List.mem_cons, ih nodup, lookup_cons]
      by_cases same : key = entry.1
      · subst same
        have missing : rest.lookup entry.1 ≠ some value := fun found =>
          absent (List.mem_map.mpr ⟨(entry.1, value), (ih nodup).mpr found, rfl⟩)
        simp [missing, Prod.ext_iff, eq_comm]
      · simp [same, Prod.ext_iff]

/-! ## Reading a file -/

theorem records_nil : Records [] [] where
  nodup := List.nodup_nil
  last := by
    intro key value
    simp [AssignedLast]
  order := List.Pairwise.nil

namespace Records

variable {lines : List (List Char)} {bound : List (String × String)}

/-- The keys of a record are those that the lines bind. -/
theorem mem_keys_iff (records : Records lines bound) {key : String} :
    key ∈ bound.map Prod.fst ↔ ∃ line ∈ lines, Binds line key := by
  have present : key ∈ bound.map Prod.fst ↔ ∃ value, AssignedLast lines key value := by
    simp [mem_iff_lookup records.nodup, records.last]
  rw [present]
  exact ⟨fun ⟨_, assigned⟩ => assigned.binds, exists_assignedLast⟩

/-- A line that assigns nothing leaves a record as it is. -/
theorem pass (records : Records lines bound) {line : List Char}
    (ignored : ∀ key, ¬ Binds line key) : Records (lines ++ [line]) bound where
  nodup := records.nodup
  last := by
    intro key value
    rw [records.last, assignedLast_append_singleton_iff]
    have other : ¬ Assigns line key value := fun assigns => ignored key ⟨value, assigns⟩
    simp [ignored key, other]
  order := records.order.imp fun before => before.append [line]

/-- A line that assigns a value binds its key in the record. -/
theorem assign (records : Records lines bound) {line : List Char} {key value : String}
    (assigns : Assigns line key value) :
    Records (lines ++ [line]) (UserDir.assign key value bound) where
  nodup := by
    rw [keys_assign]
    split
    · exact records.nodup
    · next absent =>
      refine List.nodup_append.mpr ⟨records.nodup, List.nodup_singleton key, ?_⟩
      rintro old member new last rfl
      exact absent (List.mem_singleton.mp last ▸ member)
  last := by
    intro other read
    rw [lookup_assign, assignedLast_append_singleton_iff, ← records.last]
    by_cases same : other = key
    · subst same
      have binds : Binds line other := ⟨value, assigns⟩
      simp only [if_true, binds, not_true, false_and, or_false, Option.some.injEq]
      constructor
      · rintro rfl
        exact assigns
      · exact fun assignsRead => (assigns.unique assignsRead).2
    · have unbound : ¬ Binds line other :=
        fun ⟨_, assignsOther⟩ => same (assignsOther.unique assigns).1
      have unread : ¬ Assigns line other read := fun assignsOther => unbound ⟨read, assignsOther⟩
      simp [same, unbound, unread]
  order := by
    have order := records.order.imp fun before => before.append [line]
    rw [keys_assign]
    split
    · exact order
    · next absent =>
      -- All lines so far are a point where the old keys have been bound and the new one has not.
      refine List.pairwise_append.mpr ⟨order, List.pairwise_singleton _ _, ?_⟩
      intro first member second new
      obtain rfl := List.mem_singleton.mp new
      refine ⟨lines, List.prefix_append lines [line], records.mem_keys_iff.mp member, ?_⟩
      exact fun passed inside binds => absent (records.mem_keys_iff.mpr ⟨passed, inside, binds⟩)

/-- The lines determine their record. -/
theorem unique (records : Records lines bound) {other : List (String × String)}
    (recordsOther : Records lines other) : other = bound := by
  have same : List.Perm other bound := by
    refine (List.perm_ext_iff_of_nodup recordsOther.nodup.of_map records.nodup.of_map).mpr ?_
    rintro ⟨key, value⟩
    rw [mem_iff_lookup recordsOther.nodup, mem_iff_lookup records.nodup, recordsOther.last,
      records.last]
  refine same.eq_of_pairwise ?_ (List.pairwise_map.mp recordsOther.order)
    (List.pairwise_map.mp records.order)
  exact fun _ _ _ _ before after => (before.asymm after).elim

end Records

/-- What the assignments of some lines come to. -/
def recordOf (lines : List (List Char)) : List (String × String) :=
  ((lines.map String.ofList).filterMap assignment?).foldl
    (fun bound entry => assign entry.1 entry.2 bound) []

theorem assignment?_eq_none {line : List Char} (ignored : ∀ key, ¬ Binds line key) :
    assignment? (String.ofList line) = none := by
  rw [Option.eq_none_iff_forall_ne_some]
  rintro ⟨key, value⟩ read
  exact ignored key ⟨value, assignment?_eq_some_iff.mp read⟩

theorem recordOf_append_singleton (lines : List (List Char)) (line : List Char) :
    recordOf (lines ++ [line]) = match assignment? (String.ofList line) with
      | none => recordOf lines
      | some (key, value) => assign key value (recordOf lines) := by
  cases read : assignment? (String.ofList line) <;> simp [recordOf, read]

theorem records_recordOf (lines : List (List Char)) : Records lines (recordOf lines) := by
  induction lines using List.reverseRecOn with
  | nil => exact records_nil
  | append_singleton lines line ih =>
      rw [recordOf_append_singleton]
      cases read : assignment? (String.ofList line) with
      | none =>
          have ignored : ∀ key, ¬ Binds line key := by
            rintro key ⟨value, assigns⟩
            rw [assignment?_eq_some_iff.mpr assigns] at read
            cases read
          exact ih.pass ignored
      | some entry => exact ih.assign (assignment?_eq_some_iff.mp read)

theorem recordOf_ignore {line : List Char} (ignored : ∀ key, ¬ Binds line key)
    (before after : List (List Char)) :
    recordOf (before ++ line :: after) = recordOf (before ++ after) := by
  simp [recordOf, assignment?_eq_none ignored]

/-- The bytes of a text are read, and its assignments counted. -/
theorem assigned_of_text {world : World} {config : Path} {contents : String}
    (known : BaseDir.config world = .ok (some config))
    (held : world.readFile (config.child "user-dirs.dirs").text = .ok (encodeUtf8 contents)) :
    assigned world = .ok (assignments contents) := by
  have decoded : decodeFile (encodeUtf8 contents) = .ok contents := by
    rw [decodeFile, decodeStrict_encodeUtf8]
  simp [assigned, file, known, held, decoded, Bind.bind, Except.bind, Pure.pure, Except.pure]

/-- Only blanks are behind the quote that closes the value, and so it is the last quote. -/
theorem Assigns.closes {line : List Char} {key value : String} (assigns : Assigns line key value) :
    ∃ front trail, line = front ++ value.toList ++ '"' :: trail ∧ '"' ∉ trail := by
  obtain ⟨-, lead, before, behind, trail, -, -, -, blank, rfl⟩ := assigns
  refine ⟨lead ++ key.toList ++ before ++ '=' :: (behind ++ ['"']), trail, by simp, ?_⟩
  intro member
  exact absurd (blank _ member) (by decide)

/--
Where the file of user directories holds a text, its lines determine what is assigned.
A key has the value that the last line binding it assigns to it, and it comes behind
the keys that were bound when it was not.  A line that assigns nothing might as well
not be there, and any other assigns one value to one key: the quote that closes the
value is the last of the line.
-/
theorem assigned_records {world : World} {config : Path} {contents : String}
    (known : BaseDir.config world = .ok (some config))
    (held : world.readFile (config.child "user-dirs.dirs").text = .ok (encodeUtf8 contents)) :
    ∃ lines bound, assigned world = .ok bound ∧ LinesOf contents.toList lines ∧
      (∀ other, LinesOf contents.toList other → other = lines) ∧ Records lines bound ∧
      (∀ other, Records lines other → other = bound) ∧
      (∀ before line after, lines = before ++ line :: after → (∀ key, ¬ Binds line key) →
        Records (before ++ after) bound) ∧
      ∀ line key value, Assigns line key value →
        (∃ front trail, line = front ++ value.toList ++ '"' :: trail ∧ '"' ∉ trail) ∧
        ∀ other otherValue, Assigns line other otherValue → other = key ∧ otherValue = value := by
  have read := assigned_of_text known held
  let lines := splitLines (unifyLineEnds contents.toList)
  have records : Records lines (recordOf lines) := records_recordOf lines
  refine ⟨lines, recordOf lines, read, linesOf_iff.mpr rfl, ?_, records, ?_, ?_, ?_⟩
  · intro other isRun
    exact (linesOf_iff.mp isRun).symm
  · intro other
    exact records.unique
  · intro before line after whole ignored
    rw [whole, recordOf_ignore ignored]
    exact records_recordOf (before ++ after)
  · intro line key value assigns
    refine ⟨assigns.closes, ?_⟩
    intro other otherValue assignsOther
    exact assignsOther.unique assigns

/-- Three line ends, a key bound twice, quotes in a value, and three lines that assign nothing. -/
theorem assigned_records_of_repeated_keys :
    let contents := "# moved\r\n\tXDG_MUSIC_DIR = \"/a\" \rXDG_DESKTOP_DIR=\"a \"b\"\"\n" ++
      "XDG_MUSIC_DIR=\"/m\"\nXDG_videos_DIR=\"/v\"\nXDG_VIDEOS_DIR=\"/v\" #"
    let world : World :=
      { World.withHome "linux" with
        files := [("/home/u/.config/user-dirs.dirs", encodeUtf8 contents)] }
    assigned world = .ok [("XDG_MUSIC_DIR", "/m"), ("XDG_DESKTOP_DIR", "a \"b\"")] ∧
      ∃ lines, LinesOf contents.toList lines ∧ AssignedLast lines "XDG_MUSIC_DIR" "/m" ∧
        BoundBefore lines "XDG_MUSIC_DIR" "XDG_DESKTOP_DIR" ∧
        ∀ value, ¬ AssignedLast lines "XDG_VIDEOS_DIR" value := by
  intro contents world
  have known : BaseDir.config world = .ok (some (Path.ofText "/home/u/.config")) := by
    rfl
  have counted : assignments contents =
      [("XDG_MUSIC_DIR", "/m"), ("XDG_DESKTOP_DIR", "a \"b\"")] := by
    decide +kernel
  have ran := assigned_of_text known rfl
  rw [counted] at ran
  obtain ⟨lines, bound, read, isRun, -, records, -⟩ := assigned_records known rfl
  rw [ran] at read
  cases read
  refine ⟨ran, lines, isRun, (records.last _ _).mp (by decide), ?_, ?_⟩
  · exact List.rel_of_pairwise_cons records.order (by decide)
  · intro value assigned
    cases (records.last _ _).mpr assigned

end PathExpr.Table.UserDir

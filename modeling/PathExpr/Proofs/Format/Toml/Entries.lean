import PathExpr.Proofs.Format.Toml.Arrays
import PathExpr.RawSequence

/-!
# Documents of one entry

The entry that a document begins with stays the first one, and its array stays as
it is, whatever statements follow: a closed array admits no additions.
-/

namespace PathExpr.Format.Toml

open PathExpr.Text

/-- The name of the only entry. -/
def entryName : String := RawSequence.key

/-! ## What later statements leave alone -/

/-- The first entry is the array of the name, and it is closed. -/
structure Kept (items : List Value) (progress : Progress) : Prop where
  first : ∃ others, progress.entries = (.text entryName, .list items) :: others
  closed : [entryName] ∈ progress.declared.closed

/-- What leads to no closed table or array leads elsewhere than to the kept array. -/
theorem ne_of_isClosed {declared : Declared} (closed : [entryName] ∈ declared.closed)
    {name : String} {rest : Key} (unclosed : declared.isClosed (name :: rest) = false) :
    name ≠ entryName := by
  rintro rfl
  rw [Declared.isClosed, List.any_eq_false] at unclosed
  exact unclosed _ closed (by simp [List.isPrefixOf])

theorem isClosed_of_append {declared : Declared} {key rest : Key}
    (unclosed : declared.isClosed (key ++ rest) = false) : declared.isClosed key = false := by
  rw [Declared.isClosed, List.any_eq_false] at unclosed ⊢
  intro done member inside
  rw [List.isPrefixOf_iff_prefix] at inside
  have longer := inside.trans (List.prefix_append key rest)
  exact unclosed done member (List.isPrefixOf_iff_prefix.mpr longer)

/-- A dotted key consists of the names that lead to a table and the name in it. -/
theorem eq_of_splitKey? {key parent : Key} {name : String}
    (parts : splitKey? key = some (parent, name)) : key = parent ++ [name] := by
  obtain ⟨last, found, pair⟩ := Option.map_eq_some_iff.mp parts
  obtain ⟨rfl, rfl⟩ := Prod.mk.inj pair
  exact (List.dropLast_append_getLast? last found).symm

section Changes

variable {items : List Value} {others changed : Entries} {name : String}

/-- Binding another name leaves the first entry in its place. -/
theorem insert_kept (other : name ≠ entryName) (value : Value) :
    Value.insert (.text name) value ((.text entryName, .list items) :: others) =
      (.text entryName, .list items) :: Value.insert (.text name) value others := by
  have differs : Value.sameKey (.text entryName) (.text name) = false := by
    rw [Value.sameKey]
    exact beq_eq_false_iff_ne.mpr (Ne.symm other)
  rw [Value.insert, differs]
  rfl

/-- Changing a table binds the first name of the key that leads there. -/
theorem changeTable_eq_some {enterArrays : Bool} {change : Entries → Option Entries} {rest : Key}
    {entries : Entries}
    (changing : changeTable enterArrays change (name :: rest) entries = some changed) :
    ∃ value, changed = Value.insert (.text name) value entries := by
  have bound : ∀ value? : Option Value,
      (value? >>= fun value => some (Value.insert (.text name) value entries)) = some changed →
      ∃ value, changed = Value.insert (.text name) value entries := by
    intro value? inserted
    obtain ⟨value, -, same⟩ := Option.bind_eq_some_iff.mp inserted
    exact ⟨value, (Option.some.inj same).symm⟩
  rw [changeTable] at changing
  split at changing
  · exact bound _ changing
  · exact bound _ changing
  · split at changing
    · split at changing
      · exact bound _ changing
      · exact bound _ changing
    · exact bound _ changing
  · exact bound _ changing

theorem changeTable_kept (other : name ≠ entryName) {enterArrays : Bool}
    {change : Entries → Option Entries} {rest : Key}
    (changing : changeTable enterArrays change (name :: rest)
      ((.text entryName, .list items) :: others) = some changed) :
    ∃ others', changed = (.text entryName, .list items) :: others' := by
  obtain ⟨value, rfl⟩ := changeTable_eq_some changing
  exact ⟨_, insert_kept other value⟩

/-- An entry that is added has a new name, so the first one stays. -/
theorem addEntry_kept {value : Value}
    (added : addEntry name value ((.text entryName, .list items) :: others) = some changed) :
    ∃ others', changed = (.text entryName, .list items) :: others' := by
  rw [addEntry] at added
  split at added
  · cases added
  · exact ⟨_, (Option.some.inj added).symm.trans (List.cons_append)⟩

theorem addTable_kept (other : name ≠ entryName)
    (added : addTable name ((.text entryName, .list items) :: others) = some changed) :
    ∃ others', changed = (.text entryName, .list items) :: others' := by
  rw [addTable] at added
  split at added
  · exact ⟨_, (Option.some.inj added).symm.trans (List.cons_append)⟩
  · rw [insert_kept other] at added
    exact ⟨_, (Option.some.inj added).symm⟩
  · cases added

end Changes

variable {items : List Value} {progress next : Progress}

/-- A change of another entry keeps the first one of the whole document. -/
theorem Kept.changeTable (kept : Kept items progress) {enterArrays : Bool}
    {change : Entries → Option Entries} {key : Key} {changed : Entries}
    (unclosed : progress.declared.isClosed key = false)
    (here : key = [] → ∀ others changed, change ((.text entryName, .list items) :: others) =
      some changed → ∃ others', changed = (.text entryName, .list items) :: others')
    (changing : Toml.changeTable enterArrays change key progress.entries = some changed) :
    ∃ others, changed = (.text entryName, .list items) :: others := by
  obtain ⟨⟨others, first⟩, closed⟩ := kept
  rw [first] at changing
  cases key with
  | nil => exact here rfl others changed changing
  | cons name rest => exact changeTable_kept (ne_of_isClosed closed unclosed) changing

/-- Tables that are only mentioned close nothing. -/
theorem closed_foldl_defer (keys : List Key) (declared : Declared) :
    (keys.foldl Declared.defer declared).closed = declared.closed := by
  induction keys generalizing declared with
  | nil => rfl
  | cons key keys ih => exact ih (declared.defer key)

/-- An entry is refused where it would enter a closed array. -/
theorem Kept.addEntry (kept : Kept items progress) {key : Key} {value : Value}
    (added : progress.addEntry key value = .ok next) : Kept items next := by
  obtain ⟨⟨parent, name⟩, -, added⟩ := exists_of_bind_eq_ok added
  simp only [] at added
  split at added
  · cases added
  · next free =>
    simp only [Bool.or_eq_true, not_or, Bool.not_eq_true] at free
    obtain ⟨entries, change, added⟩ := exists_of_bind_eq_ok added
    cases added
    refine ⟨kept.changeTable free.2 (fun _ _ _ => addEntry_kept) (eq_some_of_require change), ?_⟩
    simp only []
    split
    · refine List.mem_cons_of_mem _ ?_
      rw [closed_foldl_defer]
      exact kept.closed
    · rw [closed_foldl_defer]
      exact kept.closed

theorem Kept.openTable (kept : Kept items progress) {key : Key}
    (opened : progress.openTable key = .ok next) : Kept items next := by
  simp only [Progress.openTable] at opened
  split at opened
  · cases opened
  · next free =>
    rw [Bool.not_eq_true, Bool.or_eq_false_iff] at free
    obtain ⟨entries, change, same⟩ := exists_of_bind_eq_ok opened
    cases same
    -- A table is only looked at where it is opened, and so the first entry is not changed.
    have first := kept.changeTable free.2
      (fun _ others _ same => ⟨others, (Option.some.inj same).symm⟩) (eq_some_of_require change)
    exact ⟨first, kept.closed⟩

theorem Kept.openItem (kept : Kept items progress) {key : Key}
    (opened : progress.openItem key = .ok next) : Kept items next := by
  obtain ⟨⟨parent, name⟩, parts, opened⟩ := exists_of_bind_eq_ok opened
  simp only [] at opened
  split at opened
  · cases opened
  · next free =>
    obtain ⟨entries, change, same⟩ := exists_of_bind_eq_ok opened
    cases same
    rw [Bool.not_eq_true] at free
    obtain rfl := eq_of_splitKey? (eq_some_of_require parts)
    refine ⟨kept.changeTable (isClosed_of_append free) ?_ (eq_some_of_require change), ?_⟩
    · rintro rfl _ _
      exact addTable_kept (ne_of_isClosed kept.closed free)
    · refine List.mem_filter.mpr ⟨kept.closed, ?_⟩
      have nonempty := List.append_ne_nil_of_right_ne_nil parent (List.cons_ne_nil name [])
      obtain ⟨first, rest, shape⟩ := List.exists_cons_of_ne_nil nonempty
      rw [shape] at free ⊢
      simp [List.isPrefixOf, ne_of_isClosed kept.closed free]

/-- A header opens a table or an item, elsewhere than in the kept array. -/
theorem Kept.readHeader (kept : Kept items progress) {cs rest : List Char}
    (read : readHeader progress cs = .ok (next, rest)) : Kept items next := by
  have settled : Kept items { progress with declared := progress.declared.settle } :=
    ⟨kept.first, kept.closed⟩
  simp only [Toml.readHeader] at read
  split at read
  · obtain ⟨⟨key, behind⟩, -, read⟩ := exists_of_bind_eq_ok read
    obtain ⟨opened, opening, read⟩ := exists_of_bind_eq_ok read
    simp only [] at read
    split at read
    · cases read
      exact settled.openItem opening
    · cases read
  · obtain ⟨⟨key, behind⟩, -, read⟩ := exists_of_bind_eq_ok read
    obtain ⟨opened, opening, read⟩ := exists_of_bind_eq_ok read
    simp only [] at read
    split at read
    · cases read
      exact settled.openTable opening
    · cases read

theorem Kept.readStatement (kept : Kept items progress) {cs rest : List Char}
    (read : readStatement progress cs = .ok (next, rest)) : Kept items next := by
  unfold Toml.readStatement at read
  split at read
  · cases read
    exact kept
  · cases read
    exact kept
  · cases read
    exact kept
  · exact kept.readHeader read
  · obtain ⟨⟨key, value, behind⟩, -, read⟩ := exists_of_bind_eq_ok read
    obtain ⟨added, add, read⟩ := exists_of_bind_eq_ok read
    cases read
    exact kept.addEntry add

/-- However a document goes on, the first array stays as it is. -/
theorem Kept.readLines (kept : Kept items progress) {fuel : Nat} {cs : List Char}
    (read : readLines fuel progress cs = .ok next) : Kept items next := by
  induction fuel generalizing progress cs with
  | zero => cases read
  | succ fuel ih =>
      rw [Toml.readLines] at read
      obtain ⟨⟨reached, behind⟩, statement, read⟩ := exists_of_bind_eq_ok read
      obtain ⟨rest, -, read⟩ := exists_of_bind_eq_ok read
      have keeps := kept.readStatement statement
      split at read
      · cases read
        exact keeps
      · exact ih keeps read
      · cases read

/-! ## Reading the document -/

/-- A document of one entry with an array of texts. -/
def entryText (bodies : List (List Char)) : List Char :=
  entryName.toList ++ ' ' :: '=' :: ' ' :: '[' :: arrayText bodies

theorem unifyLines_of_notMem {cs : List Char} (noReturn : '\r' ∉ cs) : unifyLines cs = cs := by
  fun_induction unifyLines cs with
  | case1 => rfl
  | case2 => simp at noReturn
  | case3 c rest _ ih => rw [ih fun member => noReturn (List.mem_cons_of_mem c member)]

theorem readValue_array (bodies : List (List Char)) (fuel : Nat) :
    readValue (fuel + 1) ('[' :: arrayText bodies) =
      (readItems fuel (arrayText bodies)).map fun found => (.list found.1, found.2) := by
  unfold readValue
  show (readItems fuel (arrayText bodies) >>= fun found =>
    Except.ok (Value.list found.1, found.2)) = _
  cases readItems fuel (arrayText bodies) <;> rfl

theorem readEntry_entryText (bodies : List (List Char)) (fuel : Nat) :
    readEntry (fuel + 2) (entryText bodies) =
      (readItems fuel (arrayText bodies)).map fun found =>
        ([entryName], .list found.1, found.2) := by
  have key : readKey (entryText bodies) =
      .ok ([entryName], '=' :: ' ' :: '[' :: arrayText bodies) :=
    rfl
  have gap : skipGap (' ' :: '[' :: arrayText bodies) = '[' :: arrayText bodies := rfl
  rw [readEntry, key]
  simp only [bind, Except.bind, gap, readValue_array]
  cases readItems fuel (arrayText bodies) <;> rfl

/-- The document as far as its first statement goes. -/
def afterEntry (items : List Value) : Progress :=
  ⟨[(.text entryName, .list items)], ⟨[[entryName]], [], []⟩, []⟩

/-- Behind its first statement the document has the array, and it is closed. -/
theorem kept_afterEntry (items : List Value) : Kept items (afterEntry items) :=
  ⟨⟨[], rfl⟩, List.mem_cons_self⟩

theorem length_lt_length_arrayText (bodies : List (List Char)) :
    bodies.length < (arrayText bodies).length := by
  induction bodies with
  | nil => exact Nat.succ_pos 1
  | cons body bodies ih =>
      rw [arrayText_cons, List.length_cons, List.length_cons, List.length_cons, List.length_append,
        List.length_cons, List.length_cons]
      omega

/-- The first statement is the entry, with enough fuel for all its items. -/
theorem readStatement_entryText (bodies : List (List Char)) :
    ∃ bound, bodies.length < bound ∧
      readStatement ⟨[], .none, []⟩ (skipGap (entryText bodies)) =
        (readItems bound (arrayText bodies)).map fun found => (afterEntry found.1, found.2) := by
  refine ⟨2 * (entryText bodies).length, ?_, ?_⟩
  · have long := length_lt_length_arrayText bodies
    rw [entryText, List.length_append, List.length_cons, List.length_cons, List.length_cons,
      List.length_cons]
    omega
  · show (readEntry (2 * (entryText bodies).length + 2) (entryText bodies) >>= fun found =>
      (⟨[], .none, []⟩ : Progress).addEntry found.1 found.2.1 >>= fun progress =>
        Except.ok (progress, found.2.2)) = _
    rw [readEntry_entryText]
    cases readItems (2 * (entryText bodies).length) (arrayText bodies) <;> rfl

/-- Bodies without carriage returns make a document without any. -/
theorem notMem_entryText {bodies : List (List Char)} (noReturn : ∀ body ∈ bodies, '\r' ∉ body) :
    '\r' ∉ entryText bodies := by
  have array : '\r' ∉ arrayText bodies := by
    induction bodies with
    | nil => decide
    | cons body bodies ih =>
        obtain ⟨first, others⟩ := List.forall_mem_cons.mp noReturn
        rw [arrayText_cons]
        simp [first, ih others]
  have name : '\r' ∉ entryName.toList := by decide
  simp [entryText, name, array]

/-- Texts that are all writable are read back from their document. -/
theorem read_of_isWritable {raw : List String} (writable : ∀ s ∈ raw, IsWritable s.toList) :
    read (String.ofList (entryText (raw.map fun s => escaped s.toList))) =
      .ok (.map [(.text entryName, .list (raw.map .text))]) := by
  have noReturn : ∀ body ∈ raw.map fun s => escaped s.toList, '\r' ∉ body :=
    List.forall_mem_map.mpr fun s _ member => by cases isPrintable_of_mem_escaped '\r' member
  obtain ⟨bound, enough, statement⟩ := readStatement_entryText (raw.map fun s => escaped s.toList)
  rw [List.length_map] at enough
  rw [readItems_of_isWritable writable enough] at statement
  rw [read, String.toList_ofList, unifyLines_of_notMem (notMem_entryText noReturn)]
  simp only [readLines, statement]
  rfl

theorem Written.noReturn {raw : List String} {bodies : List (List Char)}
    (written : Written raw bodies) : ∀ body ∈ bodies, '\r' ∉ body := by
  induction written with
  | nil => exact List.forall_mem_nil _
  | cons known _ ih =>
      refine List.forall_mem_cons.mpr ⟨fun control => ?_, ih⟩
      cases isPrintable_of_basicBody known '\r' control

theorem written_of_isWritable {raw : List String} (writable : ∀ s ∈ raw, IsWritable s.toList) :
    Written raw (raw.map fun s => escaped s.toList) :=
  List.forall₂_map_right_iff.mpr
    (List.forall₂_same.mpr fun s member => basicBody_of_isWritable (writable s member))

/-- A document of one array is read as an entry with its items, and perhaps others. -/
theorem exists_of_read {bodies : List (List Char)} {value : Value}
    (noReturn : ∀ body ∈ bodies, '\r' ∉ body)
    (read : read (String.ofList (entryText bodies)) = .ok value) :
    ∃ fuel items rest others, readItems fuel (arrayText bodies) = .ok (items, rest) ∧
      value = .map ((.text entryName, .list items) :: others) := by
  obtain ⟨bound, -, statement⟩ := readStatement_entryText bodies
  rw [Toml.read, String.toList_ofList, unifyLines_of_notMem (notMem_entryText noReturn)] at read
  obtain ⟨progress, lines, read⟩ := exists_of_bind_eq_ok read
  cases read
  rw [readLines, statement] at lines
  obtain ⟨⟨reached, behind⟩, entry, lines⟩ := exists_of_bind_eq_ok lines
  obtain ⟨⟨items, rest⟩, array, pair⟩ := exists_of_map_eq_ok entry
  obtain ⟨rfl, rfl⟩ := Prod.mk.inj pair
  obtain ⟨after, -, lines⟩ := exists_of_bind_eq_ok lines
  have kept : Kept items progress := by
    simp only [] at lines
    split at lines
    · cases lines
      exact kept_afterEntry items
    · exact (kept_afterEntry items).readLines lines
    · cases lines
  obtain ⟨others, first⟩ := kept.first
  exact ⟨bound, items, rest, others, array, by rw [first]⟩

/-! ## Writing the document -/

/-- A text between its quotes. -/
def quotedBody (body : List Char) : String :=
  "\"" ++ String.ofList body ++ "\""

theorem writeText_eq (s : String) : writeText s = (basicBody s).map quotedBody := by
  rw [writeText]
  cases basicBody s <;> rfl

/-- The items of an array are written exactly when the body of each text is. -/
theorem writeItems_eq_ok {raw : List String} {items : List String} :
    writeItems (raw.map .text) = .ok items ↔ ∃ bodies, Written raw bodies ∧
      items = bodies.map quotedBody := by
  induction raw generalizing items with
  | nil =>
      constructor
      · intro written
        cases written
        exact ⟨[], .nil, rfl⟩
      · rintro ⟨bodies, written, rfl⟩
        cases written
        rfl
  | cons s raw ih =>
      rw [List.map_cons, writeItems, writeValue, writeText_eq]
      constructor
      · intro written
        obtain ⟨own, text, written⟩ := exists_of_bind_eq_ok written
        obtain ⟨others, behind, written⟩ := exists_of_bind_eq_ok written
        cases written
        obtain ⟨body, known, rfl⟩ := exists_of_map_eq_ok text
        obtain ⟨bodies, all, rfl⟩ := ih.mp behind
        exact ⟨body :: bodies, .cons known all, rfl⟩
      · rintro ⟨bodies, written, rfl⟩
        cases written with
        | cons known all =>
            rw [known, ih.mpr ⟨_, all, rfl⟩]
            rfl

theorem toList_writeArray (bodies : List (List Char)) :
    (writeArray (bodies.map quotedBody)).toList ++ ['\n'] = '[' :: arrayText bodies := by
  have item : ∀ body, (" " ++ quotedBody body ++ ",").toList =
      ' ' :: '"' :: (body ++ ['"', ',']) := by
    intro body
    simp [quotedBody]
  rw [writeArray, String.toList_append, String.toList_append, String.toList_join, List.map_map,
    List.flatMap_map]
  simp [item, arrayText]

theorem write_eq (raw : List String) :
    write [(.text entryName, .list (raw.map .text))] =
      (writeItems (raw.map .text)).map fun items =>
        entryName ++ " = " ++ writeArray items ++ "\n" := by
  have noTable : (raw.map Value.text).any isTable = false := by
    simp [isTable]
  have line : partOf entryName (.list (raw.map .text)) =
      .line ((writeItems (raw.map .text)).map writeArray) := by
    rw [partOf, noTable, writeValue]
    cases writeItems (raw.map .text) <;> rfl
  have parts : partsOf "" [(.text entryName, .list (raw.map .text))] =
      [(entryName, .ok (entryName, .line ((writeItems (raw.map .text)).map writeArray)))] := by
    rw [← line]
    rfl
  rw [write, parts]
  cases writeItems (raw.map .text) with
  | error fault => rfl
  | ok items =>
      show Except.ok ("" ++ entryName ++ " = " ++ writeArray items ++ "\n" ++ "") =
        Except.ok (entryName ++ " = " ++ writeArray items ++ "\n")
      rw [String.empty_append, String.append_empty]

/-- A list of texts is written exactly when every body is, and then as the document of one entry. -/
theorem write_eq_ok {raw : List String} {s : String} :
    write [(.text entryName, .list (raw.map .text))] = .ok s ↔ ∃ bodies, Written raw bodies ∧
      s = String.ofList (entryText bodies) := by
  have text : ∀ bodies, entryName ++ " = " ++ writeArray (bodies.map quotedBody) ++ "\n" =
      String.ofList (entryText bodies) := by
    intro bodies
    have array := toList_writeArray bodies
    rw [← String.toList_inj]
    simp only [String.toList_append, String.toList_ofList, List.append_assoc, entryText]
    exact congrArg (fun cs => entryName.toList ++ (" = ".toList ++ cs)) array
  rw [write_eq]
  constructor
  · intro written
    obtain ⟨items, each, rfl⟩ := exists_of_map_eq_ok written
    obtain ⟨bodies, all, rfl⟩ := writeItems_eq_ok.mp each
    exact ⟨bodies, all, text bodies⟩
  · rintro ⟨bodies, all, rfl⟩
    rw [writeItems_eq_ok.mpr ⟨bodies, all, rfl⟩]
    exact congrArg Except.ok (text bodies)

end PathExpr.Format.Toml

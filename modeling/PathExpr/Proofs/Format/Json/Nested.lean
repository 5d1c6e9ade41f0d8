import PathExpr.Proofs.Format.Json.Parts

/-!
# Written values are read back

Null, truth values, integers within the digit limit, texts, and sequences and
mappings of these with distinct texts for keys are read as they were written, on
one line as well as indented.
-/

namespace PathExpr.Format.Json

open PathExpr.Number PathExpr.Text

/-- An entry with a text for a key. -/
def entryOf (entry : String × Value) : Value × Value :=
  (.text entry.1, entry.2)

/-- The values that are written and read without loss. -/
inductive Portable : Value → Prop where
  | null : Portable .null
  | bool (b : Bool) : Portable (.bool b)
  | int {n : Int} (short : n.natAbs < 10 ^ digitLimit) : Portable (.int n)
  | text (s : String) : Portable (.text s)
  | list {items : List Value} (each : ∀ item ∈ items, Portable item) : Portable (.list items)
  | map {entries : List (String × Value)} (distinct : (entries.map Prod.fst).Nodup)
      (each : ∀ entry ∈ entries, Portable entry.2) :
      Portable (.map (entries.map entryOf))

/-! ## Keys -/

theorem insert_of_new {key value : Value} {entries : List (Value × Value)}
    (new : ∀ entry ∈ entries, Value.sameKey entry.1 key = false) :
    Value.insert key value entries = entries ++ [(key, value)] := by
  induction entries with
  | nil => rfl
  | cons entry entries ih =>
      have differs := new entry List.mem_cons_self
      have others := ih fun other member => new other (List.mem_cons_of_mem entry member)
      simp [Value.insert, differs, others]

theorem foldl_insert_entryOf (before : List (String × Value)) {entries : List (String × Value)}
    (distinct : ((before ++ entries).map Prod.fst).Nodup) :
    (entries.map entryOf).foldl (fun merged entry => Value.insert entry.1 entry.2 merged)
      (before.map entryOf) = (before ++ entries).map entryOf := by
  induction entries generalizing before with
  | nil => simp
  | cons entry entries ih =>
      have new : ∀ other ∈ before.map entryOf, Value.sameKey other.1 (.text entry.1) = false := by
        intro other member
        obtain ⟨kept, inBefore, rfl⟩ := List.mem_map.mp member
        rw [List.map_append, List.nodup_append] at distinct
        have differ := distinct.2.2 kept.1 (List.mem_map_of_mem inBefore) entry.1 (by simp)
        simpa [entryOf, Value.sameKey] using differ
      have moved : before ++ entry :: entries = before ++ [entry] ++ entries := by
        simp
      rw [moved] at distinct ⊢
      have inserted : Value.insert (entryOf entry).1 (entryOf entry).2 (before.map entryOf) =
          (before ++ [entry]).map entryOf := by
        rw [List.map_append]
        exact insert_of_new new
      rw [← ih _ distinct, List.map_cons, List.foldl_cons, inserted]

/-- Merging leaves entries with distinct texts for keys as they are. -/
theorem mergeEntries_entryOf {entries : List (String × Value)}
    (distinct : (entries.map Prod.fst).Nodup) :
    Value.mergeEntries (entries.map entryOf) = entries.map entryOf := by
  have merged := foldl_insert_entryOf [] distinct
  simpa [Value.mergeEntries] using merged

/-! ## Any value -/

theorem writeItems_eq (pretty : Bool) (level : Nat) (items : List Value) :
    writeItems pretty level items = writeParts pretty level (writeValue pretty level) items := by
  induction items with
  | nil => rw [writeItems, writeParts]
  | cons item items ih => rw [writeItems, writeParts, ih]

theorem writeMembers_eq (pretty : Bool) (level : Nat) (entries : List (Value × Value)) :
    writeMembers pretty level entries =
      writeParts pretty level (fun entry => writeMember pretty level entry.1 entry.2) entries := by
  induction entries with
  | nil => rw [writeMembers, writeParts]
  | cons entry entries ih => rw [writeMembers, writeParts, ih]

theorem writeMember_text {pretty : Bool} {level : Nat} {value : Value} {body : List Char}
    (written : writeValue pretty level value = .ok body) (key : String) :
    writeMember pretty level (.text key) value = .ok (writeText key ++ ':' :: ' ' :: body) := by
  rw [writeMember, written]
  rfl

/-- A portable value is written, and what is written is read as the value. -/
theorem Portable.writeValue {value : Value} (portable : Portable value) (pretty : Bool) :
    ∀ level, ∃ body, writeValue pretty level value = .ok body ∧ ReadsAs body value := by
  -- The level stays general, since items stand one level below what holds them.
  induction portable with
  | null => exact fun level => ⟨nullWord, by rw [Json.writeValue], readsAs_null⟩
  | bool b => exact fun level => ⟨writeBool b, by rw [Json.writeValue], readsAs_bool b⟩
  | @int n short =>
      intro level
      have within := (Nat.length_toDigits_le_iff (by decide) (by decide)).mpr short
      have text : Value.intText n = .ok (toString n) := by
        rw [Value.intText, if_neg (Nat.not_lt.mpr within)]
      refine ⟨(toString n).toList, ?_, readsAs_int short⟩
      rw [Json.writeValue, text]
      rfl
  | text s => exact fun level => ⟨writeText s, by rw [Json.writeValue], readsAs_text s⟩
  | @list items each ih =>
      intro level
      cases items with
      | nil => exact ⟨['[', ']'], by rw [Json.writeValue], readsAs_emptyList⟩
      | cons item items =>
          obtain ⟨first, written, reads⟩ := ih item List.mem_cons_self (level + 1)
          have readBack : ∀ other ∈ items, ∃ body,
              Json.writeValue pretty (level + 1) other = .ok body ∧
                PartReadsAs readItems ']' body other := by
            intro other member
            obtain ⟨body, writtenOther, readsOther⟩ :=
              ih other (List.mem_cons_of_mem item member) (level + 1)
            exact ⟨body, writtenOther, readsOther.item⟩
          obtain ⟨others, writtenOthers, readsAll⟩ :=
            reads.item.writeParts rfl rfl pretty (level + 1) readBack
          refine ⟨_, ?_, readsAll.list (gap_lineStart pretty (level + 1))
            (gap_lineStart pretty level)⟩
          rw [Json.writeValue, written, writeItems_eq, writtenOthers]
          simp [bind, Except.bind, pure, Except.pure]
  | @map entries distinct each ih =>
      intro level
      cases entries with
      | nil => exact ⟨['\x7b', '\x7d'], by rw [List.map_nil, Json.writeValue], readsAs_emptyMap⟩
      | cons entry entries =>
          obtain ⟨first, written, reads⟩ := ih entry List.mem_cons_self (level + 1)
          have readBack : ∀ other ∈ entries.map entryOf, ∃ body,
              writeMember pretty (level + 1) other.1 other.2 = .ok body ∧
                PartReadsAs readMembers '\x7d' body other := by
            intro other member
            obtain ⟨kept, inEntries, rfl⟩ := List.mem_map.mp member
            obtain ⟨body, writtenOther, readsOther⟩ :=
              ih kept (List.mem_cons_of_mem entry inEntries) (level + 1)
            exact ⟨_, writeMember_text writtenOther kept.1, readsOther.member kept.1⟩
          obtain ⟨others, writtenOthers, readsAll⟩ :=
            (reads.member entry.1).writeParts rfl rfl pretty (level + 1) readBack
          have merged := readsAll.map (gap_lineStart pretty (level + 1))
            (gap_lineStart pretty level)
          have kept : Value.mergeEntries ((.text entry.1, entry.2) :: entries.map entryOf) =
              (entry :: entries).map entryOf := mergeEntries_entryOf distinct
          rw [kept] at merged
          refine ⟨_, ?_, merged⟩
          rw [List.map_cons, entryOf, Json.writeValue, writeMember_text written entry.1,
            writeMembers_eq, writtenOthers]
          simp [bind, Except.bind, pure, Except.pure]

/-- A portable value has no tuples. -/
theorem Portable.plain {value : Value} (portable : Portable value) : value.plain = value := by
  induction portable with
  | null | bool | int | text => simp [Value.plain]
  | @list items each ih =>
      have same : Value.plainItems items = items := by
        clear each
        induction items with
        | nil => rw [Value.plainItems]
        | cons item items others =>
            rw [Value.plainItems, ih item List.mem_cons_self,
              others fun other member => ih other (List.mem_cons_of_mem item member)]
      rw [Value.plain, same]
  | @map entries distinct each ih =>
      have same : Value.plainEntries (entries.map entryOf) = entries.map entryOf := by
        clear distinct each
        induction entries with
        | nil => rw [List.map_nil, Value.plainEntries]
        | cons entry entries others =>
            rw [List.map_cons, entryOf, Value.plainEntries, ih entry List.mem_cons_self,
              others fun other member => ih other (List.mem_cons_of_mem entry member)]
      rw [Value.plain, same]

/-- A portable value comes to an end. -/
theorem Portable.isEndless {value : Value} (portable : Portable value) :
    value.isEndless = false := by
  induction portable with
  | null | bool | int | text => simp [Value.isEndless]
  | @list items each ih =>
      rw [Value.isEndless]
      clear each
      induction items with
      | nil => rw [Value.anyEndless]
      | cons item items others =>
          rw [Value.anyEndless, ih item List.mem_cons_self,
            others fun other member => ih other (List.mem_cons_of_mem item member)]
          rfl
  | @map entries distinct each ih =>
      rw [Value.isEndless]
      clear distinct each
      induction entries with
      | nil => rw [List.map_nil, Value.anyEndlessEntry]
      | cons entry entries others =>
          rw [List.map_cons, entryOf, Value.anyEndlessEntry, ih entry List.mem_cons_self,
            others fun other member => ih other (List.mem_cons_of_mem entry member)]
          rfl

/-- A document is read as its value, with a gap behind it. -/
theorem ReadsAs.read {body : List Char} {value : Value} (reads : ReadsAs body value)
    {gap : List Char} (blank : Gap gap) : read (String.ofList (body ++ gap)) = .ok value := by
  have stops : Stops gap := by
    intro c first
    simp [isStop, blank c (List.mem_of_mem_head? first)]
  have whole := reads.reads (2 * (body ++ gap).length + 2) gap
    (by rw [List.length_append]; omega) stops
  have rest : skipGap gap = [] := by
    rw [← List.append_nil gap, blank.skipGap]
    rfl
  rw [Json.read, String.toList_ofList, (reads.starts.append gap).skipGap]
  simp only [whole, bind, Except.bind]
  rw [rest]
  rfl

end PathExpr.Format.Json

import PathExpr.Format.Yaml.Writer
import PathExpr.Proofs.Format.Yaml.Items

/-!
# Lists of texts

A list of texts is written with a dash in front of each text, and scanned item by
item.  The token of an item holds the text itself, or what the folding of its line
ends leaves of it.
-/

namespace PathExpr.Format.Yaml

/-! ## The document -/

/-- The lines of a text in a list. -/
def itemText (s : String) : List Char :=
  '-' :: ' ' :: (writeText true itemIndent itemIndent s.toList ++ ['\n'])

/-- The lines of texts in a list. -/
def itemsText (raw : List String) : List Char :=
  raw.flatMap itemText

theorem itemsText_cons (s : String) (raw : List String) :
    itemsText (s :: raw) = itemText s ++ itemsText raw :=
  List.flatMap_cons

theorem map_itemsText_cons (s : String) (raw : List String) :
    (itemsText (s :: raw)).map unifiedBreak = '-' :: ' ' ::
      ((writeText true itemIndent itemIndent s.toList).map unifiedBreak ++
        '\n' :: (itemsText raw).map unifiedBreak) := by
  simp [itemsText_cons, itemText, unifiedBreak]

/-- Behind an item stands the dash of another one, or nothing. -/
theorem nextItem_itemsText (raw : List String) : NextItem ((itemsText raw).map unifiedBreak) := by
  cases raw with
  | nil => exact .done
  | cons s raw =>
      rw [map_itemsText_cons]
      exact .item _

/-- Texts become leaves, so that the writer has no block to lay out. -/
theorem blocksOf_texts (raw : List String) :
    blocksOf (raw.map .text) = .ok (raw.map fun s => .leaf (.text s.toList)) := by
  induction raw with
  | nil => rfl
  | cons s raw ih =>
      rw [List.map_cons, blocksOf, ih]
      rfl

/-- The writer puts each text behind a dash, at the indentation of a list at the top. -/
theorem writeItems_texts (raw : List String) :
    writeItems 0 (raw.map fun s => .leaf (.text s.toList)) = itemsText raw := by
  induction raw with
  | nil => rfl
  | cons s raw ih =>
      rw [List.map_cons, writeItems, ih, itemsText_cons]
      rfl

/-- The document of a list of texts. -/
def listText : List String → List Char
  | [] => ['[', ']', '\n']
  | raw => itemsText raw

/-- A list of texts is written as its items, or as an empty list in flow style. -/
theorem write_texts (raw : List String) :
    write (.list (raw.map .text)) = .ok (String.ofList (listText raw)) := by
  rw [write, Block.ofValue, blocksOf_texts]
  cases raw with
  | nil => rfl
  | cons s raw =>
      rw [listText, ← writeItems_texts]
      · rfl
      · exact List.cons_ne_nil s raw

/-! ## Its characters -/

/-- Whatever a text holds, it is written in characters that YAML allows in a document. -/
theorem isClear_of_mem_writeText {mayFold : Bool} {indent column : Nat} {cs : List Char} :
    ∀ c ∈ writeText mayFold indent column cs, isClear c = true := by
  unfold writeText
  cases style : styleOf cs with
  | plain =>
      intro c member
      exact (isSafe_of_mem_writePlain style _ _ _ c member).1
  | double =>
      have quote : isClear '"' = true := rfl
      have folded : ∀ c ∈ foldDouble mayFold indent (column + 1) false true cs,
          isClear c = true := by
        intro c member
        exact (isSafe_of_mem_foldDouble _ _ _ _ _ c member).1
      have opened : ∀ c ∈ '"' :: foldDouble mayFold indent (column + 1) false true cs,
          isClear c = true := List.forall_mem_cons.mpr ⟨quote, folded⟩
      exact List.forall_mem_append.mpr ⟨opened, List.forall_mem_singleton.mpr quote⟩
  | single =>
      have quote : isClear '\'' = true := rfl
      obtain ⟨clear, -⟩ := isClear_of_allowsSingleQuotes (allowsSingleQuotes_of_styleOf style)
      have runs := isClear_of_mem_runsOf (isClear_of_mem_doubleQuotes clear)
      have folded := @forall_mem_foldRuns (isClear · = true) rfl rfl _ runs
      have opened : ∀ c ∈ '\'' :: foldRuns mayFold indent (column + 1) true
          (runsOf (doubleQuotes cs)), isClear c = true :=
        List.forall_mem_cons.mpr ⟨quote, folded mayFold indent (column + 1) true⟩
      exact List.forall_mem_append.mpr ⟨opened, List.forall_mem_singleton.mpr quote⟩

theorem isClear_of_mem_itemsText (raw : List String) : ∀ c ∈ itemsText raw, isClear c = true := by
  intro c member
  obtain ⟨s, -, inside⟩ := List.mem_flatMap.mp member
  have item : ∀ c ∈ itemText s, isClear c = true :=
    List.forall_mem_cons.mpr ⟨rfl, List.forall_mem_cons.mpr ⟨rfl,
      List.forall_mem_append.mpr ⟨isClear_of_mem_writeText, List.forall_mem_singleton.mpr rfl⟩⟩⟩
  exact item c inside

theorem isClear_of_mem_listText (raw : List String) : ∀ c ∈ listText raw, isClear c = true := by
  cases raw with
  | nil => exact List.all_eq_true.mp rfl
  | cons s raw => exact isClear_of_mem_itemsText (s :: raw)

/-- Characters that are written as they are may stand in a document. -/
theorem isAllowed_of_isClear {c : Char} (clear : isClear c = true) : isAllowed c = true := by
  simp only [isClear, Bool.or_eq_true, Bool.and_eq_true, beq_iff_eq, decide_eq_true_eq] at clear
  simp only [isAllowed, Bool.or_eq_true, Bool.and_eq_true, beq_iff_eq, decide_eq_true_eq]
  rcases clear with ((rfl | ascii) | nextLine) | ⟨(low | mid) | high, -⟩
  · decide
  · omega
  · omega
  · omega
  · omega
  · omega

/-! ## Tokens -/

/-- The tokens of a text in a list. -/
def itemTokens (s : String) : List Token :=
  [.blockEntry, textToken s.toList]

/-- Behind an item the scan gives the tokens of the others; each takes two steps, dash and text. -/
theorem Scan.BehindItem.run_items {scan : Scan} {raw : List String}
    (behind : BehindItem scan ((itemsText raw).map unifiedBreak)) {fuel : Nat}
    (enough : 2 * raw.length < fuel) :
    scan.run fuel = scan.tokens.reverse ++ (raw.flatMap itemTokens ++ [.blockEnd, .streamEnd]) := by
  induction raw generalizing scan fuel with
  | nil =>
      obtain ⟨fuel, rfl⟩ := Nat.exists_eq_succ_of_ne_zero (Nat.ne_of_gt enough)
      exact behind.run_end fuel
  | cons s raw ih =>
      rw [List.length_cons] at enough
      obtain ⟨fuel, rfl⟩ : ∃ n, fuel = n + 1 + 1 := ⟨fuel - 2, by omega⟩
      rw [map_itemsText_cons] at behind
      obtain ⟨marked, mark, dash, markTokens⟩ := behind.run_dash
      obtain ⟨next, text, item, textTokens⟩ := dash.run_text (nextItem_itemsText raw)
      rw [mark, text, ih item (by omega), textTokens, markTokens]
      simp [itemTokens]

/-- The tokens of a list: its start, a dash and a text for each item, and its end. -/
theorem tokensOf_itemsText (s : String) (raw : List String) :
    tokensOf (itemsText (s :: raw)) =
      .blockSequenceStart :: ((s :: raw).flatMap itemTokens ++ [.blockEnd, .streamEnd]) := by
  have clear := isClear_of_mem_itemsText (s :: raw)
  have noReturn : '\r' ∉ itemsText (s :: raw) := fun member => by
    cases clear '\r' member
  have cells : cellsOf (itemsText (s :: raw)) =
      Place.first.cells ((itemsText (s :: raw)).map unifiedBreak) :=
    cellsOf_eq noReturn (by decide)
  have long : 2 * raw.length ≤ (itemsText raw).length := by
    clear clear noReturn cells
    induction raw with
    | nil => exact Nat.le_refl 0
    | cons s raw ih =>
        rw [itemsText_cons, List.length_append, List.length_cons, itemText, List.length_cons,
          List.length_cons]
        omega
  have length : (cellsOf (itemsText (s :: raw))).length + 1 = (itemsText raw).length + 3 +
      (writeText true itemIndent itemIndent s.toList).length + 1 + 1 := by
    rw [cells, Place.length_cells, List.length_map, itemsText_cons, itemText, List.length_append,
      List.length_cons, List.length_cons, List.length_append, List.length_singleton]
    omega
  rw [tokensOf, length, cells, map_itemsText_cons]
  obtain ⟨marked, mark, dash, markTokens⟩ := Scan.run_first
    ((writeText true itemIndent itemIndent s.toList).map unifiedBreak ++
      '\n' :: (itemsText raw).map unifiedBreak)
  obtain ⟨next, text, item, textTokens⟩ := dash.run_text (nextItem_itemsText raw)
  rw [mark, text, item.run_items (by omega), textTokens, markTokens]
  simp [itemTokens]

/-! ## What is lost -/

theorem Run.reflowed_eq {run : Run} (none : '\x85' ∉ run.chars) : run.reflowed = run.chars := by
  cases run with
  | spaces count => rfl
  | word cs => rfl
  | breaks cs =>
      have other : cs.head? ≠ some '\x85' := fun head => none (List.mem_of_mem_head? head)
      rw [Run.reflowed, if_neg other]
      exact map_unifiedBreak none

/-- Folding loses nothing of a text that has no next-line characters. -/
theorem reflowed_eq {cs : List Char} (none : '\x85' ∉ cs) : reflowed cs = cs := by
  have same : ∀ run ∈ runsOf cs, run.reflowed = run.chars := fun run member =>
    Run.reflowed_eq fun inside => none (by
      rw [← flatMap_chars_runsOf cs]
      exact List.mem_flatMap.mpr ⟨run, member, inside⟩)
  rw [reflowed, List.flatMap_congr same, flatMap_chars_runsOf]

theorem Run.nextLine_notMem_reflowed {run : Run} (proper : run.Proper) : '\x85' ∉ run.reflowed := by
  cases run with
  | spaces count =>
      intro member
      cases List.eq_of_mem_replicate member
  | word cs =>
      intro member
      cases (proper.2 _ member).2
  | breaks cs =>
      have unified : ∀ cs : List Char, '\x85' ∉ cs.map unifiedBreak := by
        intro cs member
        obtain ⟨c, -, same⟩ := List.mem_map.mp member
        exact unifiedBreak_ne c same
      rw [Run.reflowed]
      split
      · rw [foldBreaks, if_neg (not_not_intro rfl)]
        split
        · decide
        · exact unified _
      · exact unified _

/-- No next-line character comes back from between single quotes. -/
theorem nextLine_notMem_reflowed (cs : List Char) : '\x85' ∉ reflowed cs := by
  intro member
  obtain ⟨run, source, inside⟩ := List.mem_flatMap.mp member
  exact Run.nextLine_notMem_reflowed (proper_of_mem_runsOf run source) inside

/-- A text is read as itself, unless a next-line character stands in it between single quotes. -/
theorem readBack_eq_iff (cs : List Char) :
    readBack cs = cs ↔ ('\x85' ∈ cs → allowsSingleQuotes cs = false) := by
  rw [readBack]
  cases style : styleOf cs with
  | plain =>
      have plain := isPlain_of_styleOf style
      refine ⟨?_, fun _ => rfl⟩
      intro _ member
      cases plain.noBreak _ member
  | single =>
      have allows := allowsSingleQuotes_of_styleOf style
      rw [allows]
      constructor
      · intro same member
        rw [← same] at member
        cases nextLine_notMem_reflowed cs member
      · intro none
        apply reflowed_eq
        intro member
        cases none member
  | double => exact ⟨fun _ _ => allowsSingleQuotes_of_double style, fun _ => rfl⟩

end PathExpr.Format.Yaml

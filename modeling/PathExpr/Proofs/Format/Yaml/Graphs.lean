import Mathlib.Algebra.BigOperators.Group.List.Basic
import PathExpr.Format.Yaml.Reader
import PathExpr.Proofs.Format.Reading
import PathExpr.Proofs.Format.Yaml.Texts

/-!
# The values of small graphs

A lone scalar is the atom of its text, or has no value where the text is none of
its type.  The tokens of a list of texts make one node for the list and one for
each text behind it; the list is made first, and it is filled with the texts,
which have no parts of their own.  A mapping that holds itself stays in its parts.
-/

namespace PathExpr.Format.Yaml

/-! ## Nodes -/

/-- The node of a text. -/
def textNode (s : String) : Node :=
  ⟨.str, .scalar s⟩

/-- What a text in a list is read as. -/
def readText (s : String) : String :=
  String.ofList (readBack s.toList)

/-- The nodes of a list of texts: the list, and its texts behind it. -/
def textGraph (texts : List String) : Graph :=
  ⟨.seq, .sequence (List.range' 1 texts.length)⟩ :: texts.map textNode

/-- The style in which a text is written keeps its type: only what no other type claims is plain. -/
theorem scalarTag_textToken (cs : List Char) :
    Properties.scalarTag ⟨none, none⟩ (styleOf cs == .plain) (String.ofList (readBack cs)) =
      .str := by
  cases style : styleOf cs with
  | plain =>
      have same : readBack cs = cs := by rw [readBack, style]
      rw [same]
      exact (eq_of_styleOf_plain style).1
  | single => rfl
  | double => rfl

section Reading

variable (anchors : List (String × Nat)) (handles : List (String × String))

/-- A text takes the next number. -/
theorem readOptional_text (s : String) (rest : List Token) (graph : Graph) (fuel : Nat) :
    readOptional Token.endsBlockItem true false (fuel + 3)
      ⟨textToken s.toList :: rest, graph, anchors, handles⟩ =
      .ok (graph.length, ⟨rest, graph ++ [textNode (readText s)], anchors, handles⟩) := by
  have tag := scalarTag_textToken s.toList
  rw [textNode, readText, ← tag]
  rfl

/-- Behind a dash an item is read, and then the other items. -/
theorem readBlockItems_blockEntry (tokens : List Token) (graph : Graph) (fuel : Nat) :
    readBlockItems (fuel + 1) ⟨.blockEntry :: tokens, graph, anchors, handles⟩ =
      (readOptional Token.endsBlockItem true false fuel >>= fun item => do
        return item :: (← readBlockItems fuel)) ⟨tokens, graph, anchors, handles⟩ := by
  rw [readBlockItems]
  rfl

/-- The texts of a list take the next numbers, in their order. -/
theorem readBlockItems_texts (raw : List String) (rest : List Token) (graph : Graph) {fuel : Nat}
    (enough : raw.length + 4 ≤ fuel) :
    readBlockItems fuel ⟨raw.flatMap itemTokens ++ .blockEnd :: rest, graph, anchors, handles⟩ =
      .ok (List.range' graph.length raw.length,
        ⟨rest, graph ++ raw.map fun s => textNode (readText s), anchors, handles⟩) := by
  induction raw generalizing graph fuel with
  | nil =>
      obtain ⟨fuel, rfl⟩ : ∃ n, fuel = n + 1 := ⟨fuel - 1, by omega⟩
      rw [List.map_nil, List.append_nil]
      rfl
  | cons s raw ih =>
      -- One step is for the dash and three are for the text behind it.
      rw [List.length_cons] at enough
      obtain ⟨fuel, rfl⟩ : ∃ n, fuel = n + 3 + 1 := ⟨fuel - 4, by omega⟩
      have item := readOptional_text anchors handles s
        (raw.flatMap itemTokens ++ .blockEnd :: rest) graph fuel
      have others := @ih (graph ++ [textNode (readText s)]) (fuel + 3) (by omega)
      have tokens : (s :: raw).flatMap itemTokens ++ .blockEnd :: rest =
          .blockEntry :: textToken s.toList :: (raw.flatMap itemTokens ++ .blockEnd :: rest) := by
        rw [List.flatMap_cons]
        rfl
      rw [tokens, readBlockItems_blockEntry, run_bind_of_ok item, run_bind_of_ok others,
        List.length_append, List.length_singleton, List.append_assoc, List.singleton_append,
        List.length_cons, List.range'_succ]
      rfl

/-- The node of a list begins in front of those of its items, and is filled when these are read. -/
theorem readNode_blockSequence (tokens : List Token) (graph : Graph) (fuel : Nat) :
    readNode true false (fuel + 2) ⟨.blockSequenceStart :: tokens, graph, anchors, handles⟩ =
      (readBlockItems fuel ⟨tokens, graph ++ [⟨.seq, .scalar ""⟩], anchors, handles⟩).map
        fun read => (graph.length, { read.2 with
          graph := read.2.graph.modify graph.length fun node =>
            { node with content := .sequence read.1 } }) := by
  have step : readNode true false (fuel + 2)
      ⟨.blockSequenceStart :: tokens, graph, anchors, handles⟩ =
      readCollection ⟨none, none⟩ .seq (.sequence <$> readBlockItems fuel)
        ⟨tokens, graph, anchors, handles⟩ := by
    rw [readNode]
    rfl
  rw [step]
  show (((readBlockItems fuel ⟨tokens, graph ++ [⟨.seq, .scalar ""⟩], anchors, handles⟩).map _) >>=
    _) = _
  cases readBlockItems fuel ⟨tokens, graph ++ [⟨.seq, .scalar ""⟩], anchors, handles⟩ <;> rfl

/-- The document is the list: its node has the first number, and the texts follow. -/
theorem readDocument_texts (raw : List String) {fuel : Nat} (enough : raw.length + 6 ≤ fuel) :
    readDocument fuel ⟨.blockSequenceStart :: (raw.flatMap itemTokens ++ [.blockEnd, .streamEnd]),
      [], anchors, handles⟩ =
      .ok (some 0, ⟨[.streamEnd], textGraph (raw.map readText), anchors, handles⟩) := by
  obtain ⟨fuel, rfl⟩ : ∃ n, fuel = n + 2 := ⟨fuel - 2, by omega⟩
  have items := @readBlockItems_texts anchors handles raw [.streamEnd] [⟨.seq, .scalar ""⟩] fuel
    (by omega)
  have node := readNode_blockSequence anchors handles
    (raw.flatMap itemTokens ++ [.blockEnd, .streamEnd]) [] fuel
  rw [List.nil_append, items] at node
  show (readNode true false (fuel + 2) >>= readDocument.finish (fuel + 2))
    ⟨.blockSequenceStart :: _, [], anchors, handles⟩ = _
  rw [run_bind_of_ok node, textGraph, List.length_map, List.map_map]
  rfl

end Reading

/-- The document of a list of texts has the node of the list and those of its texts. -/
theorem graphOf?_listText (raw : List String) :
    graphOf? (listText raw) = .ok (some (0, textGraph (raw.map readText))) := by
  cases raw with
  | nil => rfl
  | cons s raw =>
      have long : ∀ raw : List String, raw.length ≤ (raw.flatMap itemTokens).length := by
        intro raw
        rw [List.length_flatMap, ← List.length_map (f := fun s => (itemTokens s).length)]
        refine List.length_le_sum_of_one_le _ (List.forall_mem_map.mpr fun s _ => ?_)
        exact Nat.succ_pos _
      have enough := long (s :: raw)
      rw [listText, graphOf?, tokensOf_itemsText]
      show (readDocument _ ⟨_, [], [], standardHandles⟩ >>= _) = _
      rw [readDocument_texts]
      · rfl
      · rw [List.length_cons (a := Token.blockSequenceStart), List.length_append]
        omega
      · exact List.cons_ne_nil s raw

/-! ## Scalars -/

/-- A scalar has its own text, on any way. -/
theorem plainText_scalar {graph : Graph} {number : Nat} {tag : Tag} {text : String}
    (stands : graph[number]? = some ⟨tag, .scalar text⟩) (way : List Nat) :
    plainText graph way number = .ok text := by
  unfold plainText
  split
  · next found =>
      obtain ⟨-, same⟩ := Node.mk.inj (Option.some.inj (found.symm.trans stands))
      rw [Content.scalar.inj same]
  · next found =>
      obtain ⟨-, same⟩ := Node.mk.inj (Option.some.inj (found.symm.trans stands))
      cases same
  · next other _ => cases other _ _ stands

/-- A scalar is made into the atom of its text; words for no number are one atom everywhere. -/
theorem atomAt_scalar {graph : Graph} {number : Nat} {tag : Tag} {text : String}
    (stands : graph[number]? = some ⟨tag, .scalar text⟩) :
    atomAt graph number ⟨tag, .scalar text⟩ = (atomOf tag text).map fun a =>
      .atom a (if tag == .float && isNoNumber text then none else some number) := by
  rw [atomAt, plainText_scalar stands]
  generalize read : atomOf tag text = reading
  -- Only for a moment the content is looked at, and then it is no mapping.
  cases tag <;> simp only [bind, Except.bind, read] <;> cases reading <;> rfl

theorem run_get (state : Building) :
    (get : Construction Building) state = .ok (state, state) :=
  rfl

section Making

variable {graph : Graph} {made : List (Nat × Made)} {number : Nat}

theorem nodeAt_of_getElem? {node : Node} (stands : graph[number]? = some node)
    (waiting : List Nat) (parts : List (Nat × Part)) :
    nodeAt number ⟨graph, made, waiting, parts⟩ = .ok (node, ⟨graph, made, waiting, parts⟩) := by
  rw [nodeAt, run_bind_of_ok (run_get _)]
  simp only [stands]
  rfl

/-- A scalar that has not been made becomes its atom, or has none. -/
theorem make_scalar {tag : Tag} {text : String} (fresh : made.lookup number = none)
    (stands : graph[number]? = some ⟨tag, .scalar text⟩) (single : tag.isCollection = false)
    (isAtom : tag.isAtom = true) (waiting : List Nat) (parts : List (Nat × Part)) :
    make number ⟨graph, made, waiting, parts⟩ =
      (atomAt graph number ⟨tag, .scalar text⟩).map fun done =>
        (done, ⟨graph, (number, done) :: made, waiting, parts⟩) := by
  rw [make, run_bind_of_ok (run_get _)]
  simp only [fresh]
  rw [run_bind_of_ok (nodeAt_of_getElem? stands waiting parts)]
  simp only [single, isAtom, Bool.false_eq_true, if_false, if_true]
  show ((atomAt graph number ⟨tag, .scalar text⟩).map _ >>= _) = _
  cases atomAt graph number ⟨tag, .scalar text⟩ <;> rfl

/-- A text that has not been made becomes an atom. -/
theorem makeLink_text {s : String} (fresh : made.lookup number = none)
    (stands : graph[number]? = some (textNode s)) (waiting : List Nat)
    (parts : List (Nat × Part)) :
    makeLink number ⟨graph, made, waiting, parts⟩ = .ok (.atom (.text s),
      ⟨graph, (number, .atom (.text s) (some number)) :: made, waiting, parts⟩) := by
  have text := make_scalar fresh stands rfl rfl waiting parts
  rw [atomAt_scalar stands] at text
  rw [makeLink, run_bind_of_ok text]
  rfl

end Making

/-- A scalar whose text is none of its type has no value. -/
theorem graphValue_scalar {tag : Tag} {text : String} {why : Refusal}
    (single : tag.isCollection = false) (isAtom : tag.isAtom = true)
    (failed : atomOf tag text = .error why) :
    graphValue 0 [⟨tag, .scalar text⟩] = .error why := by
  have unmade : make 0 ⟨[⟨tag, .scalar text⟩], [], [], []⟩ = .error why := by
    rw [make_scalar rfl rfl single isAtom, atomAt_scalar rfl, failed]
    rfl
  have unlinked : makeLink 0 ⟨[⟨tag, .scalar text⟩], [], [], []⟩ = .error why := by
    rw [makeLink, run_bind_of_error unmade]
  simp only [graphValue, StateT.run]
  rw [run_bind_of_error unlinked]
  rfl

/-! ## Lists of texts -/

/-- Texts that have not been made become atoms, and nothing waits for being filled. -/
theorem mapM_makeLink_texts (texts : List String) (before : Graph) (waiting : List Nat)
    (parts : List (Nat × Part)) (made : List (Nat × Made))
    (fresh : ∀ number, before.length ≤ number → made.lookup number = none) :
    ∃ done, (List.range' before.length texts.length).mapM makeLink
        ⟨before ++ texts.map textNode, made, waiting, parts⟩ =
      .ok (texts.map fun s => .atom (.text s),
        ⟨before ++ texts.map textNode, done, waiting, parts⟩) := by
  induction texts generalizing before made with
  | nil => exact ⟨made, rfl⟩
  | cons s texts ih =>
      have stands : (before ++ (s :: texts).map textNode)[before.length]? = some (textNode s) := by
        simp
      have first := makeLink_text (fresh before.length (Nat.le_refl _)) stands waiting parts
      -- The texts behind the first one have the numbers behind its number.
      have others := ih (before ++ [textNode s])
        ((before.length, .atom (.text s) (some before.length)) :: made) <| by
          intro number behind
          rw [List.length_append, List.length_singleton] at behind
          rw [List.lookup_cons, beq_eq_false_iff_ne.mpr (by omega)]
          exact fresh number (by omega)
      rw [List.append_assoc, List.length_append, List.singleton_append, List.length_singleton,
        ← List.map_cons] at others
      obtain ⟨done, others⟩ := others
      refine ⟨done, ?_⟩
      rw [List.length_cons, List.range'_succ, List.mapM_cons, run_bind_of_ok first,
        run_bind_of_ok others]
      rfl

theorem grow_atom (parts : List (Nat × Part)) (way : List Nat) (a : Atom) :
    Value.grow parts way (.atom a) = some a.value := by
  rw [Value.grow]

/-- A part that is met again on the way has no value of its own. -/
theorem grow_of_met {parts : List (Nat × Part)} {way : List Nat} {number : Nat}
    (met : way.contains number = true) : Value.grow parts way (.part number) = none := by
  rw [Value.grow, dif_pos met]

/-- A list is grown from its items. -/
theorem grow_list {parts : List (Nat × Part)} {way : List Nat} {number : Nat} {items : List Link}
    (new : way.contains number = false) (stands : parts.lookup number = some (.list items)) :
    Value.grow parts way (.part number) =
      (items.mapM (Value.grow parts (number :: way))).map .list := by
  rw [Value.grow, dif_neg (ne_true_of_eq_false new)]
  split
  · next found => cases found.symm.trans stands
  · next part found =>
      obtain rfl := Option.some.inj (found.symm.trans stands)
      exact Option.map_eq_bind.symm

/-- A mapping is grown from the values of its entries. -/
theorem grow_map {parts : List (Nat × Part)} {way : List Nat} {number : Nat}
    {entries : List (Atom × Link)} (new : way.contains number = false)
    (stands : parts.lookup number = some (.map entries)) :
    Value.grow parts way (.part number) =
      (entries.mapM fun (entry : Atom × Link) => do
        let value ← Value.grow parts (number :: way) entry.2
        return (entry.1.value, value)).map .map := by
  rw [Value.grow, dif_neg (ne_true_of_eq_false new)]
  split
  · next found => cases found.symm.trans stands
  · next part found =>
      obtain rfl := Option.some.inj (found.symm.trans stands)
      exact Option.map_eq_bind.symm

theorem mapM_grow_texts (parts : List (Nat × Part)) (way : List Nat) (texts : List String) :
    (texts.map fun s => Link.atom (.text s)).mapM (Value.grow parts way) =
      some (texts.map .text) := by
  induction texts with
  | nil => rfl
  | cons s texts ih =>
      rw [List.map_cons, List.mapM_cons, grow_atom, ih]
      rfl

/-- The first collection that waits is filled, and then those that wait behind it. -/
theorem fillAll_cons (bound : Nat) (graph : Graph) (made : List (Nat × Made)) (number : Nat)
    (rest : List Nat) (parts : List (Nat × Part)) :
    fillAll (bound + 1) ⟨graph, made, number :: rest, parts⟩ =
      (partAt number >>= fun part => do
        modify fun state => { state with parts := (number, part) :: state.parts }
        fillAll bound) ⟨graph, made, rest, parts⟩ :=
  rfl

/-- The list is filled with its texts. -/
theorem graphValue_textGraph (texts : List String) :
    graphValue 0 (textGraph texts) = .ok (.list (texts.map .text)) := by
  let list : Node := ⟨.seq, .sequence (List.range' 1 texts.length)⟩
  obtain ⟨done, made⟩ := mapM_makeLink_texts texts [list] [] [] [(0, .part)] <| by
    intro number behind
    rw [List.length_singleton] at behind
    rw [List.lookup_cons, beq_eq_false_iff_ne.mpr (by omega)]
    rfl
  -- Nothing but the list waits: texts are made at once.
  have filled : fillAll ((textGraph texts).length + 1) ⟨textGraph texts, [(0, .part)], [0], []⟩ =
      .ok ((), ⟨textGraph texts, done, [], [(0, .list (texts.map fun s => .atom (.text s)))]⟩) := by
    have length : (textGraph texts).length = texts.length + 1 := by
      rw [textGraph, List.length_cons, List.length_map]
    have part : partAt 0 ⟨textGraph texts, [(0, .part)], [], []⟩ =
        .ok (.list (texts.map fun s => .atom (.text s)), ⟨textGraph texts, done, [], []⟩) := by
      show ((List.range' 1 texts.length).mapM makeLink >>= fun items => pure (Part.list items))
        ⟨textGraph texts, [(0, .part)], [], []⟩ = _
      exact run_bind_of_ok made
    rw [length, fillAll_cons, run_bind_of_ok part]
    rfl
  have whole : Value.ofParts [(0, .list (texts.map fun s => .atom (.text s)))] (.part 0) =
      .list (texts.map .text) := by
    have items : (texts.map fun s => Link.atom (.text s)).mapM
        (Value.grow [(0, .list (texts.map fun s => .atom (.text s)))] [0]) =
        some (texts.map .text) := mapM_grow_texts _ _ texts
    rw [Value.ofParts, grow_list rfl rfl, items]
    rfl
  have root : makeLink 0 ⟨textGraph texts, [], [], []⟩ =
      .ok (.part 0, ⟨textGraph texts, [(0, .part)], [0], []⟩) := by
    rfl
  simp only [graphValue, StateT.run]
  rw [run_bind_of_ok root, run_bind_of_ok filled]
  exact congrArg Except.ok whole

/-- A list of texts is read as the list of what each of its items is read as. -/
theorem read_listText (raw : List String) :
    read (String.ofList (listText raw)) =
      .ok (.list (raw.map fun s => .text (String.ofList (readBack s.toList)))) := by
  have allowed : (listText raw).all isAllowed = true :=
    List.all_eq_true.mpr fun c member => isAllowed_of_isClear (isClear_of_mem_listText raw c member)
  rw [read, String.toList_ofList, allowed, graphOf?_listText]
  simp only [bind, Except.bind]
  rw [graphValue_textGraph, List.map_map]
  rfl

/-! ## A mapping in itself -/

/-- The nodes of a mapping with one entry, which holds the mapping under a text. -/
def selfGraph (s : String) : Graph :=
  [⟨.map, .mapping [(1, 0)]⟩, textNode s]

/-- The mapping is begun, and met again in the place of its value. -/
theorem partAt_selfGraph (s : String) :
    partAt 0 ⟨selfGraph s, [(0, .part)], [], []⟩ = .ok (.map [(.text s, .part 0)],
      ⟨selfGraph s, [(1, .atom (.text s) (some 1)), (0, .part)], [], []⟩) := by
  have node : nodeAt 0 ⟨selfGraph s, [(0, .part)], [], []⟩ =
      .ok (⟨.map, .mapping [(1, 0)]⟩, ⟨selfGraph s, [(0, .part)], [], []⟩) := rfl
  have entries : flatEntries 0 ⟨selfGraph s, [(0, .part)], [], []⟩ =
      .ok ([(1, 0)], ⟨selfGraph s, [(0, .part)], [], []⟩) := rfl
  have key : make 1 ⟨selfGraph s, [(0, .part)], [], []⟩ = .ok (.atom (.text s) (some 1),
      ⟨selfGraph s, [(1, .atom (.text s) (some 1)), (0, .part)], [], []⟩) := by
    have stands : (selfGraph s)[1]? = some ⟨.str, .scalar s⟩ := rfl
    rw [make_scalar rfl stands rfl rfl, atomAt_scalar stands]
    rfl
  have made : makeEntries [] [(1, 0)] ⟨selfGraph s, [(0, .part)], [], []⟩ =
      .ok ([(⟨.text s, some 1⟩, .part 0)],
        ⟨selfGraph s, [(1, .atom (.text s) (some 1)), (0, .part)], [], []⟩) := by
    rw [makeEntries, run_bind_of_ok key]
    rfl
  rw [partAt, run_bind_of_ok node]
  show (flatEntries 0 >>= fun flat => makeEntries [] flat >>= fun bound =>
    pure (Part.map (bound.map fun entry => (entry.1.atom, entry.2))))
    ⟨selfGraph s, [(0, .part)], [], []⟩ = _
  rw [run_bind_of_ok entries, run_bind_of_ok made]
  rfl

/-- The value of the mapping contains itself. -/
theorem graphValue_selfGraph (s : String) :
    graphValue 0 (selfGraph s) = .ok (.knot [(0, .map [(.text s, .part 0)])] 0) := by
  have root : makeLink 0 ⟨selfGraph s, [], [], []⟩ =
      .ok (.part 0, ⟨selfGraph s, [(0, .part)], [0], []⟩) := rfl
  have filled : fillAll ((selfGraph s).length + 1) ⟨selfGraph s, [(0, .part)], [0], []⟩ =
      .ok ((), ⟨selfGraph s, [(1, .atom (.text s) (some 1)), (0, .part)], [],
        [(0, .map [(.text s, .part 0)])]⟩) := by
    rw [fillAll_cons, run_bind_of_ok (partAt_selfGraph s)]
    rfl
  have whole : Value.ofParts [(0, .map [(.text s, .part 0)])] (.part 0) =
      .knot [(0, .map [(.text s, .part 0)])] 0 := by
    have inner : Value.grow [(0, .map [(.text s, .part 0)])] [0] (.part 0) = none :=
      grow_of_met rfl
    rw [Value.ofParts, grow_map rfl rfl, List.mapM_cons, inner]
    rfl
  simp only [graphValue, StateT.run]
  rw [run_bind_of_ok root, run_bind_of_ok filled, ← whole]
  rfl

end PathExpr.Format.Yaml

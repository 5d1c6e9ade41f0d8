import PathExpr.Proofs.Format.Yaml.TextFaults

/-!
# Refusals of YAML

A token that cannot be read carries its refusal to the place where it would be
used, so that what holds of the refusals of a scan holds of those of the nodes.
-/

namespace PathExpr.Format.Yaml

open Std.Do PathExpr.Number

set_option mvcgen.warning false

variable {allowed : Fault → Prop}

/-! ## Names, tags and texts -/

/-- The token is no refusal. -/
def Token.IsRead : Token → Prop
  | refused _ => False
  | _ => True

/-- A name that is empty, or goes on with a character that no name has, is malformed. -/
@[spec]
theorem anchorName_spec (cells : List Cell) :
    ⦃⌜True⌝⦄ anchorName cells ⦃Ends (fun _ => True) allowed⦄ := by
  simp only [anchorName]
  split
  · exact fun _ => trivial
  · exact fun _ => trivial

@[spec]
theorem escapedBytes_spec (fuel : Nat) (cells : List Cell) :
    ⦃⌜True⌝⦄ escapedBytes fuel cells ⦃Ends (fun _ => True) allowed⦄ := by
  induction fuel generalizing cells with
  | zero => mvcgen [escapedBytes]
  | succ fuel ih => mvcgen [escapedBytes, ih]

/-- Escaped bytes in a tag that are no UTF-8 make it malformed, which is no fault. -/
@[spec]
theorem tagChars_spec (fuel : Nat) (cells : List Cell) :
    ⦃⌜True⌝⦄ tagChars fuel cells ⦃Ends (fun _ => True) allowed⦄ := by
  induction fuel generalizing cells with
  | zero => mvcgen [tagChars]
  | succ fuel ih => mvcgen [tagChars, ih]

@[spec]
theorem tagText_spec (cells : List Cell) :
    ⦃⌜True⌝⦄ tagText cells ⦃Ends (fun _ => True) allowed⦄ := by
  mvcgen [tagText]

@[spec]
theorem tagHandle_spec (cells : List Cell) :
    ⦃⌜True⌝⦄ tagHandle cells ⦃Ends (fun _ => True) allowed⦄ := by
  mvcgen [tagHandle]

/-- A tag becomes a token that is read, whatever its handle is. -/
@[spec]
theorem tagToken_spec (cells : List Cell) :
    ⦃⌜True⌝⦄ tagToken cells ⦃Ends (·.1.IsRead) allowed⦄ := by
  mvcgen [tagToken]

/-- The number of a version is an integer of any length, and may have too many digits. -/
@[spec]
theorem versionNumber_spec (cells : List Cell) :
    ⦃⌜True⌝⦄ versionNumber cells ⦃Ends (fun _ => True) TextFault⦄ := by
  mvcgen [versionNumber]
  grind

/-- Only a version has numbers; the other directives have no fault. -/
@[spec]
theorem directiveContent_spec (cells : List Cell) :
    ⦃⌜True⌝⦄ directiveContent cells ⦃Ends (fun _ => True) TextFault⦄ := by
  mvcgen [directiveContent]

@[spec]
theorem quotedBreaks_spec (fuel : Nat) (cells : List Cell) :
    ⦃⌜True⌝⦄ quotedBreaks fuel cells ⦃Ends (fun _ => True) allowed⦄ := by
  induction fuel generalizing cells with
  | zero => mvcgen [quotedBreaks]
  | succ fuel ih => mvcgen [quotedBreaks, ih]

/-- The number of an escape may be beyond the characters, or beyond all codes. -/
@[spec]
theorem numberedChar_spec (code : Nat) :
    ⦃⌜True⌝⦄ numberedChar code ⦃Ends (fun _ => True) TextFault⦄ := by
  mvcgen [numberedChar] <;> grind

/-- A quoted text fails for a numbered escape in it, and for nothing else. -/
@[spec]
theorem quotedText_spec (double : Bool) (fuel : Nat) (cells : List Cell) :
    ⦃⌜True⌝⦄ quotedText double fuel cells ⦃Ends (fun _ => True) TextFault⦄ := by
  induction fuel generalizing cells with
  | zero => mvcgen [quotedText]
  | succ fuel ih => mvcgen [quotedText, ih]

@[spec]
theorem blockHeader_spec (cells : List Cell) :
    ⦃⌜True⌝⦄ blockHeader cells ⦃Ends (fun _ => True) allowed⦄ := by
  mvcgen [blockHeader]

@[spec]
theorem skipRestOfLine_spec (cells : List Cell) :
    ⦃⌜True⌝⦄ skipRestOfLine cells ⦃Ends (fun _ => True) allowed⦄ := by
  mvcgen [skipRestOfLine]

/-- A text in block style has no escapes, and so no fault. -/
@[spec]
theorem blockText_spec (isFolded : Bool) (parent : Int) (cells : List Cell) :
    ⦃⌜True⌝⦄ blockText isFolded parent cells ⦃Ends (fun _ => True) allowed⦄ := by
  mvcgen [blockText]

/-! ## Scans -/

/-- None of the tokens so far is a refusal. -/
def Scan.IsRead (scan : Scan) : Prop :=
  ∀ token ∈ scan.tokens, token.IsRead

namespace Scan

variable {scan : Scan} {token : Token}

@[simp, grind =]
theorem tokens_push (scan : Scan) (token : Token) :
    (scan.push token).tokens = token :: scan.tokens :=
  rfl

@[simp, grind =]
theorem tokens_advance (scan : Scan) (length : Nat) : (scan.advance length).tokens = scan.tokens :=
  rfl

@[simp, grind =]
theorem tokens_allowKey (scan : Scan) (allowed : Bool) :
    (scan.allowKey allowed).tokens = scan.tokens :=
  rfl

@[simp, grind =]
theorem tokens_addIndent (scan : Scan) (column : Nat) :
    (scan.addIndent column).tokens = scan.tokens :=
  rfl

/-- Putting a token in front of others, as marks of keys are put, adds this token only. -/
@[grind →]
theorem eq_or_mem_of_insertAt {position : Nat} {other : Token}
    (member : other ∈ (scan.insertAt position token).tokens) :
    other = token ∨ other ∈ scan.tokens := by
  obtain early | late := List.mem_append.mp member
  · exact .inr (List.mem_of_mem_take early)
  · obtain same | late := List.mem_cons.mp late
    · exact .inl same
    · exact .inr (List.mem_of_mem_drop late)

/-- Leaving blocks adds the token of an end for each of them. -/
theorem isRead_unwindFrom (column : Int) (outer : List Int) (read : scan.IsRead) :
    (unwindFrom column outer scan).IsRead := by
  induction outer generalizing scan with
  | nil => exact read
  | cons next outer ih =>
      rw [unwindFrom]
      split
      · exact ih (List.forall_mem_cons.mpr ⟨trivial, read⟩)
      · exact read

theorem isRead_unwind (column : Int) (read : scan.IsRead) : (scan.unwind column).IsRead := by
  unfold unwind
  split
  · exact read
  · exact isRead_unwindFrom column scan.outer read

/-- A possible key is forgotten when its mark is too far away, or is malformed if it had to be a
key. -/
@[spec]
theorem dropStale_spec (read : scan.IsRead) :
    ⦃⌜True⌝⦄ scan.dropStale ⦃Ends Scan.IsRead allowed⦄ := by
  mvcgen [dropStale]

@[spec]
theorem dropCandidate_spec (read : scan.IsRead) :
    ⦃⌜True⌝⦄ scan.dropCandidate ⦃Ends Scan.IsRead allowed⦄ := by
  mvcgen [dropCandidate]

/-- The place of a possible key is kept, with no token as yet. -/
@[spec]
theorem saveCandidate_spec (read : scan.IsRead) :
    ⦃⌜True⌝⦄ scan.saveCandidate ⦃Ends Scan.IsRead allowed⦄ := by
  mvcgen [saveCandidate]

/-- A mark between documents ends the blocks in front of it. -/
@[spec]
theorem documentMarker_spec (read : scan.IsRead) (isRead : token.IsRead) :
    ⦃⌜True⌝⦄ scan.documentMarker token ⦃Ends Scan.IsRead allowed⦄ := by
  mvcgen [documentMarker] <;> grind [Scan.IsRead, isRead_unwind]

@[spec]
theorem directive_spec (read : scan.IsRead) :
    ⦃⌜True⌝⦄ scan.directive ⦃Ends Scan.IsRead TextFault⦄ := by
  mvcgen [directive] <;> grind [Scan.IsRead, isRead_unwind, Token.IsRead]

@[spec]
theorem flowStart_spec (read : scan.IsRead) (isRead : token.IsRead) :
    ⦃⌜True⌝⦄ scan.flowStart token ⦃Ends Scan.IsRead allowed⦄ := by
  mvcgen [flowStart]
  grind [Scan.IsRead]

@[spec]
theorem flowEnd_spec (read : scan.IsRead) (isRead : token.IsRead) :
    ⦃⌜True⌝⦄ scan.flowEnd token ⦃Ends Scan.IsRead allowed⦄ := by
  mvcgen [flowEnd]
  grind [Scan.IsRead]

@[spec]
theorem flowEntry_spec (read : scan.IsRead) :
    ⦃⌜True⌝⦄ scan.flowEntry ⦃Ends Scan.IsRead allowed⦄ := by
  mvcgen [flowEntry]
  grind [Scan.IsRead, Token.IsRead]

/-- The token of a block is put in front of its first item, if the item begins one. -/
@[spec]
theorem openBlock_spec (read : scan.IsRead) (isRead : token.IsRead) :
    ⦃⌜True⌝⦄ scan.openBlock token ⦃Ends Scan.IsRead allowed⦄ := by
  mvcgen [openBlock]
  grind [Scan.IsRead]

@[spec]
theorem blockEntry_spec (read : scan.IsRead) :
    ⦃⌜True⌝⦄ scan.blockEntry ⦃Ends Scan.IsRead allowed⦄ := by
  mvcgen [blockEntry]
  grind [Scan.IsRead, Token.IsRead]

@[spec]
theorem keyMark_spec (read : scan.IsRead) :
    ⦃⌜True⌝⦄ scan.keyMark ⦃Ends Scan.IsRead allowed⦄ := by
  mvcgen [keyMark]
  grind [Scan.IsRead, Token.IsRead]

/-- The mark of a value puts that of its key among the tokens, where the key was read. -/
@[spec]
theorem valueMark_spec (read : scan.IsRead) :
    ⦃⌜True⌝⦄ scan.valueMark ⦃Ends Scan.IsRead allowed⦄ := by
  mvcgen [valueMark] <;> grind [Scan.IsRead, Token.IsRead]

/-- A name, an alias or a tag: whatever `part` reads becomes a token behind the others. -/
@[spec]
theorem keyPart_spec {part : List Cell → Reading (Token × List Cell)} (read : scan.IsRead)
    (parts : ∀ cells, ⦃⌜True⌝⦄ part cells ⦃Ends (·.1.IsRead) allowed⦄) :
    ⦃⌜True⌝⦄ scan.keyPart part ⦃Ends Scan.IsRead allowed⦄ := by
  mvcgen [keyPart, parts]
  grind [Scan.IsRead]

@[spec]
theorem blockScalar_spec (isFolded : Bool) (read : scan.IsRead) :
    ⦃⌜True⌝⦄ scan.blockScalar isFolded ⦃Ends Scan.IsRead allowed⦄ := by
  mvcgen [blockScalar]
  grind [Scan.IsRead, Token.IsRead]

/-- The faults of a quoted text are those of its scan. -/
@[spec]
theorem quotedScalar_spec (double : Bool) (read : scan.IsRead) :
    ⦃⌜True⌝⦄ scan.quotedScalar double ⦃Ends Scan.IsRead TextFault⦄ := by
  mvcgen [quotedScalar]

@[spec]
theorem plain_spec (read : scan.IsRead) :
    ⦃⌜True⌝⦄ scan.plain ⦃Ends Scan.IsRead allowed⦄ := by
  mvcgen [plain]
  grind [Scan.IsRead, Token.IsRead]

/-- The first character decides which reader goes on, and each of them keeps what has been read. -/
@[spec]
theorem fetch_spec (read : scan.IsRead) :
    ⦃⌜True⌝⦄ scan.fetch ⦃Ends Scan.IsRead TextFault⦄ := by
  mvcgen [fetch]

/-- What stands between tokens has no fault; blocks that end there are left. -/
@[spec]
theorem approach_spec (read : scan.IsRead) :
    ⦃⌜True⌝⦄ scan.approach ⦃Ends Scan.IsRead allowed⦄ := by
  mvcgen [approach] <;> grind [Scan.IsRead, isRead_unwind]

end Scan

/-- A token that is refused is refused as malformed or for the fault of a text. -/
def Token.IsSound : Token → Prop
  | refused why => why.Within TextFault
  | _ => True

theorem Token.IsRead.isSound {token : Token} (read : token.IsRead) : token.IsSound := by
  cases token with
  | refused why => exact read.elim
  | _ => trivial

namespace Scan

/-- A scan ends in its tokens, or in the first of them and a refusal. -/
theorem isSound_of_end {tokens : List Token} {last token : Token}
    (member : token ∈ (last :: tokens).reverse) (read : ∀ other ∈ tokens, other.IsRead)
    (sound : last.IsSound) : token.IsSound := by
  obtain rfl | earlier := List.mem_cons.mp (List.mem_reverse.mp member)
  · exact sound
  · exact (read token earlier).isSound

theorem isSound_of_refuse {scan : Scan} {why : Refusal} {token : Token}
    (member : token ∈ scan.refuse why) (read : scan.IsRead) (within : why.Within TextFault) :
    token.IsSound :=
  isSound_of_end member (fun other kept => read other (List.mem_of_mem_drop kept)) within

/-- Every step of a scan keeps what has been read, and its end is a refusal at most. -/
theorem isSound_of_run (fuel : Nat) {scan : Scan} {token : Token} (read : scan.IsRead)
    (member : token ∈ run fuel scan) : token.IsSound := by
  induction fuel generalizing scan with
  | zero => exact isSound_of_refuse member read trivial
  | succ fuel ih =>
      -- A scan ends where a step refuses, or at the end of the document; otherwise it goes on.
      rw [run] at member
      split at member
      · next failed =>
        exact isSound_of_refuse member read (refusal_of_triple (approach_spec read) failed)
      · next near approached =>
        have approach : ⦃⌜True⌝⦄ scan.approach ⦃Ends Scan.IsRead TextFault⦄ := approach_spec read
        have readNear := result_of_triple approach approached
        have drop : ⦃⌜True⌝⦄ (near.unwind (-1)).dropCandidate ⦃Ends Scan.IsRead TextFault⦄ :=
          dropCandidate_spec (isRead_unwind (-1) readNear)
        split at member
        · split at member
          · next failed =>
            exact isSound_of_refuse member read (refusal_of_triple drop failed)
          · next dropped =>
            exact isSound_of_end member (result_of_triple drop dropped) trivial
        · split at member
          · next failed =>
            exact isSound_of_refuse member read (refusal_of_triple (fetch_spec readNear) failed)
          · next fetched => exact ih (result_of_triple (fetch_spec readNear) fetched) member

end Scan

/-- A scan starts without tokens, so that all tokens of a document are sound. -/
theorem isSound_of_mem_tokensOf {cs : List Char} {token : Token} (member : token ∈ tokensOf cs) :
    token.IsSound :=
  Scan.isSound_of_run _ (fun _ none => absurd none List.not_mem_nil) member

/-! ## Nodes -/

/-- The tokens that are left are sound. -/
def NodeState.IsSound (state : NodeState) : Prop :=
  ∀ token ∈ state.tokens, token.IsSound

/-- The tokens stay sound, and a refusal is one of theirs. -/
abbrev KeepsSound {α : Type} : PostCond α (.arg NodeState (.except Refusal .pure)) :=
  post⟨fun _ state => ⌜state.IsSound⌝, fun why => ⌜why.Within TextFault⌝⟩

@[spec]
theorem refuse_spec {α : Type} :
    ⦃fun _ => ⌜True⌝⦄ (refuse : NodeReading α) ⦃KeepsSound⦄ := by
  exact fun _ _ => trivial

/-- A refused token is met here, and its refusal becomes that of the node. -/
@[spec]
theorem nextToken_spec : ⦃fun state => ⌜state.IsSound⌝⦄ nextToken ⦃KeepsSound⦄ := by
  mvcgen [nextToken]
  next state sound why rest refused =>
  exact sound (.refused why) (refused ▸ List.mem_cons_self)

@[spec]
theorem dropToken_spec : ⦃fun state => ⌜state.IsSound⌝⦄ dropToken ⦃KeepsSound⦄ := by
  mvcgen [dropToken]
  next sound _ => exact fun token member => sound token (List.mem_of_mem_drop member)

@[spec]
theorem takeAnchor_spec : ⦃fun state => ⌜state.IsSound⌝⦄ takeAnchor ⦃KeepsSound⦄ := by
  mvcgen [takeAnchor]

@[spec]
theorem takeTag_spec : ⦃fun state => ⌜state.IsSound⌝⦄ takeTag ⦃KeepsSound⦄ := by
  mvcgen [takeTag]

@[spec]
theorem tagName_spec (tag : Option String × String) :
    ⦃fun state => ⌜state.IsSound⌝⦄ tagName tag ⦃KeepsSound⦄ := by
  mvcgen [tagName]

/-- An anchor and a tag stand in front of a node in either order, and either may be missing. -/
@[spec]
theorem takeProperties_spec :
    ⦃fun state => ⌜state.IsSound⌝⦄ takeProperties ⦃KeepsSound⦄ := by
  have names : ∀ tag : Option (Option String × String),
      ⦃fun state => ⌜state.IsSound⌝⦄ tag.mapM tagName ⦃KeepsSound⦄ := by
    intro tag
    cases tag <;> mvcgen [Option.mapM]
  mvcgen [takeProperties, names]

@[spec]
theorem place_spec (anchor : Option String) (tag : Tag) (content : Content) :
    ⦃fun state => ⌜state.IsSound⌝⦄ place anchor tag content ⦃KeepsSound⦄ := by
  mvcgen [place]

@[spec]
theorem emptyNode_spec : ⦃fun state => ⌜state.IsSound⌝⦄ emptyNode ⦃KeepsSound⦄ := by
  mvcgen [emptyNode]

@[spec]
theorem checkAnchor_spec (anchor : Option String) :
    ⦃fun state => ⌜state.IsSound⌝⦄ checkAnchor anchor ⦃KeepsSound⦄ := by
  mvcgen [checkAnchor]

/-- An alias to a name that no node has so far is malformed. -/
@[spec]
theorem aliased_spec (name : String) :
    ⦃fun state => ⌜state.IsSound⌝⦄ aliased name ⦃KeepsSound⦄ := by
  mvcgen [aliased]

/-- A collection is read as what stands in it. -/
@[spec]
theorem readCollection_spec (properties : Properties) (usual : Tag) {read : NodeReading Content}
    (reads : ⦃fun state => ⌜state.IsSound⌝⦄ read ⦃KeepsSound⦄) :
    ⦃fun state => ⌜state.IsSound⌝⦄ readCollection properties usual read ⦃KeepsSound⦄ := by
  mvcgen [readCollection, reads]

@[spec]
theorem readFlowSeparator_spec (first : Bool) (isEnd : Token → Bool) :
    ⦃fun state => ⌜state.IsSound⌝⦄ readFlowSeparator first isEnd ⦃KeepsSound⦄ := by
  mvcgen [readFlowSeparator]

/-- Nodes are read from sound tokens alone. -/
theorem readers_spec (fuel : Nat) :
    (∀ block flush, ⦃fun state => ⌜state.IsSound⌝⦄ readNode block flush fuel ⦃KeepsSound⦄) ∧
    (∀ block flush properties,
      ⦃fun state => ⌜state.IsSound⌝⦄ readContent block flush properties fuel ⦃KeepsSound⦄) ∧
    (∀ ends block flush,
      ⦃fun state => ⌜state.IsSound⌝⦄ readOptional ends block flush fuel ⦃KeepsSound⦄) ∧
    (∀ ends block flush,
      ⦃fun state => ⌜state.IsSound⌝⦄ readValuePart ends block flush fuel ⦃KeepsSound⦄) ∧
    ⦃fun state => ⌜state.IsSound⌝⦄ readBlockItems fuel ⦃KeepsSound⦄ ∧
    ⦃fun state => ⌜state.IsSound⌝⦄ readFlushItems fuel ⦃KeepsSound⦄ ∧
    ⦃fun state => ⌜state.IsSound⌝⦄ readBlockMembers fuel ⦃KeepsSound⦄ ∧
    (∀ first, ⦃fun state => ⌜state.IsSound⌝⦄ readFlowItems first fuel ⦃KeepsSound⦄) ∧
    (∀ first, ⦃fun state => ⌜state.IsSound⌝⦄ readFlowMembers first fuel ⦃KeepsSound⦄) := by
  induction fuel with
  | zero =>
      refine ⟨fun block flush => ?_, fun block flush properties => ?_, fun ends block flush => ?_,
        fun ends block flush => ?_, ?_, ?_, ?_, fun first => ?_, fun first => ?_⟩
      · mvcgen [readNode]
      · mvcgen [readContent]
      · mvcgen [readOptional]
      · mvcgen [readValuePart]
      · mvcgen [readBlockItems]
      · mvcgen [readFlushItems]
      · mvcgen [readBlockMembers]
      · mvcgen [readFlowItems]
      · mvcgen [readFlowMembers]
  | succ fuel ih =>
      obtain ⟨nodes, contents, optional, valueParts, blockItems, flushItems, blockMembers,
        flowItems, flowMembers⟩ := ih
      refine ⟨fun block flush => ?_, fun block flush properties => ?_, fun ends block flush => ?_,
        fun ends block flush => ?_, ?_, ?_, ?_, fun first => ?_, fun first => ?_⟩
      · mvcgen [readNode, contents]
      · mvcgen [readContent, blockItems, flushItems, blockMembers, flowItems, flowMembers]
      · mvcgen [readOptional, nodes]
      · mvcgen [readValuePart, optional]
      · mvcgen [readBlockItems, optional, blockItems]
      · mvcgen [readFlushItems, optional, flushItems]
      · mvcgen [readBlockMembers, optional, valueParts, blockMembers]
      · mvcgen [readFlowItems, nodes, optional, valueParts, flowItems]
      · mvcgen [readFlowMembers, nodes, optional, valueParts, flowMembers]

/-- A version that is given twice is malformed, as is a handle. -/
@[spec]
theorem readDirectives_spec (fuel : Nat) (versioned : Bool) (handles : List (String × String)) :
    ⦃fun state => ⌜state.IsSound⌝⦄ readDirectives fuel versioned handles ⦃KeepsSound⦄ := by
  induction fuel generalizing versioned handles with
  | zero => mvcgen [readDirectives]
  | succ fuel ih => mvcgen [readDirectives, ih]

@[spec]
theorem dropDocumentEnds_spec (fuel : Nat) :
    ⦃fun state => ⌜state.IsSound⌝⦄ dropDocumentEnds fuel ⦃KeepsSound⦄ := by
  induction fuel with
  | zero => mvcgen [dropDocumentEnds]
  | succ fuel ih => mvcgen [dropDocumentEnds, ih]

@[spec]
theorem readDocument_spec (fuel : Nat) :
    ⦃fun state => ⌜state.IsSound⌝⦄ readDocument fuel ⦃KeepsSound⦄ := by
  obtain ⟨nodes, -, optional, -⟩ := readers_spec fuel
  mvcgen [readDocument, readDocument.explicit, readDocument.finish, nodes, optional]

/-- The nodes of a document are read from its tokens, which are sound. -/
@[spec]
theorem graphOf?_spec (cs : List Char) :
    ⦃⌜True⌝⦄ graphOf? cs ⦃Ends (fun _ => True) TextFault⦄ := by
  have sound : NodeState.IsSound ⟨tokensOf cs, [], [], standardHandles⟩ :=
    fun token member => isSound_of_mem_tokensOf member
  simp only [graphOf?]
  cases read : (readDocument (4 * (tokensOf cs).length + 16)).run
      ⟨tokensOf cs, [], [], standardHandles⟩ with
  | ok found => exact fun _ => trivial
  | error why => exact fun _ => refusal_of_run (readDocument_spec _) sound read

/-- A YAML document fails only for what has no value of the type given to it. -/
theorem textFault_of_read {s : String} {cause : Fault} (failed : read s = .error (.fault cause)) :
    TextFault cause := by
  have ends : ⦃⌜True⌝⦄ read s ⦃Ends (fun _ => True) TextFault⦄ := by
    mvcgen [read]
  exact allowed_of_triple ends failed

end PathExpr.Format.Yaml

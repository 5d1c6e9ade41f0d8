import PathExpr.Format.Xml.Reader
import PathExpr.Proofs.Format.Refusals

/-!
# Refusals of XML

The only fault of an XML document is the declaration of an entity.
-/

namespace PathExpr.Format.Xml

open Std.Do PathExpr.Text

set_option mvcgen.warning false

variable {whole cs rest : List Char} {allowed : Fault → Prop}

/-! ## Markup -/

theorem skipBlanks_suffix (cs : List Char) : skipBlanks cs <:+ cs :=
  List.dropWhile_suffix isXmlBlank

/-- What follows a name is the end of the document. -/
@[grind →]
theorem takeName_suffix {part : String × List Char} (taken : takeName cs = some part) :
    part.2 <:+ cs := by
  unfold takeName at taken
  grind [List.dropWhile_suffix]

/-- A quoted value ends within the document, whichever mark stands around it. -/
@[grind →]
theorem takeQuoted_suffix {part : List Char × List Char} (taken : takeQuoted cs = some part) :
    part.2 <:+ cs := by
  unfold takeQuoted at taken
  grind

@[spec]
theorem passComment_spec (cs : List Char) :
    ⦃⌜True⌝⦄ passComment cs ⦃Ends (· <:+ cs) allowed⦄ := by
  mvcgen [passComment]
  grind

@[spec]
theorem takeInstruction_spec (cs : List Char) :
    ⦃⌜True⌝⦄ takeInstruction cs ⦃Ends (·.2.2 <:+ cs) allowed⦄ := by
  mvcgen [takeInstruction] <;> grind

/-- The same for a caller that has split on the result of the instruction already. -/
@[grind →]
theorem takeInstruction_suffix {part : String × List Char × List Char}
    (read : takeInstruction cs = .ok part) : part.2.2 <:+ cs := by
  have ends := @takeInstruction_spec (fun _ => True) cs
  have behind := result_of_triple ends read
  exact behind

@[spec]
theorem passInstruction_spec (cs : List Char) :
    ⦃⌜True⌝⦄ passInstruction cs ⦃Ends (· <:+ cs) allowed⦄ := by
  mvcgen [passInstruction]

/-- A number that stands for no character makes the document malformed and is no fault. -/
@[spec]
theorem referencedChar_spec (code : Nat) :
    ⦃⌜True⌝⦄ referencedChar code ⦃Ends (fun _ => True) allowed⦄ := by
  mvcgen [referencedChar]

@[spec]
theorem numberReference_spec (base : Nat) (cs : List Char) :
    ⦃⌜True⌝⦄ numberReference base cs ⦃Ends (fun _ => True) allowed⦄ := by
  mvcgen [numberReference]

/-- No reference is replaced by an entity of the document, so none raises the fault of a declared
one. -/
@[spec]
theorem readReference_spec (lenient : Bool) (cs : List Char) :
    ⦃⌜True⌝⦄ readReference lenient cs ⦃Ends (fun _ => True) allowed⦄ := by
  mvcgen [readReference]

/-- The value of an attribute has no fault, whatever references it holds. -/
@[spec]
theorem attributeText_spec (lenient : Bool) (fuel : Nat) (cs : List Char) :
    ⦃⌜True⌝⦄ attributeText lenient fuel cs ⦃Ends (fun _ => True) allowed⦄ := by
  fun_induction attributeText lenient fuel cs with
  | case1 => mvcgen
  | case2 => mvcgen
  | case3 fuel rest ih => mvcgen [ih]
  | case4 => mvcgen
  | case5 fuel c rest _ _ ih => mvcgen [ih]

/-! ## Declarations -/

/-- The keyword of a declaration stands in the document behind its opening mark. -/
def DeclToken.IsWritten (cs : List Char) : DeclToken → Prop
  | declare keyword => '<' :: '!' :: keyword.toList <:+: cs
  | _ => True

/-- The end of the document follows, behind a token that stands in it. -/
abbrev LeavesToken (cs : List Char) (allowed : Fault → Prop) :
    PostCond (DeclToken × List Char) (.except Refusal .pure) :=
  Ends (fun part => part.1.IsWritten cs ∧ part.2 <:+ cs) allowed

theorem takeWhile_infix_behind (front : List Char) (test : Char → Bool) (cs : List Char) :
    front ++ cs.takeWhile test <:+: front ++ cs :=
  ((List.prefix_append_right_inj front).mpr (List.takeWhile_prefix test)).isInfix

/-- A keyword that is declared in the tail of a document is declared in the document. -/
@[grind →]
theorem DeclToken.IsWritten.mono {token : DeclToken} (written : token.IsWritten cs)
    (behind : cs <:+ whole) : token.IsWritten whole := by
  cases token with
  | declare keyword => exact List.IsInfix.trans written behind.isInfix
  | _ => trivial

/-- A token keeps its keyword, by which the declaration of an entity is found in the document
later. -/
@[spec]
theorem declToken_spec (cs : List Char) : ⦃⌜True⌝⦄ declToken cs ⦃LeavesToken cs allowed⦄ := by
  mvcgen [declToken] <;> simp only [DeclToken.IsWritten, true_and, String.toList_ofList]
  case vc4 =>
    -- The keyword of a declaration: the only token whose place in the document is kept.
    next rest _ _ _ _ _ =>
    exact ⟨takeWhile_infix_behind ['<', '!'] _ rest, by grind [List.drop_suffix]⟩
  all_goals grind [List.dropWhile_suffix, List.drop_suffix, skipBlanks_suffix]

@[spec]
theorem nextDecl_spec (cs : List Char) : ⦃⌜True⌝⦄ nextDecl cs ⦃LeavesToken cs allowed⦄ := by
  mvcgen [nextDecl]
  grind [skipBlanks_suffix]

/-- Every declaration ends with a bracket, and the rest of the document follows. -/
@[spec]
theorem passClose_spec (cs : List Char) : ⦃⌜True⌝⦄ passClose cs ⦃Ends (· <:+ cs) allowed⦄ := by
  mvcgen [passClose]
  grind

@[spec]
theorem declName_spec (cs : List Char) : ⦃⌜True⌝⦄ declName cs ⦃Leaves cs allowed⦄ := by
  mvcgen [declName]
  grind

@[spec]
theorem declLiteral_spec (cs : List Char) : ⦃⌜True⌝⦄ declLiteral cs ⦃Leaves cs allowed⦄ := by
  mvcgen [declLiteral]
  grind

@[spec]
theorem publicLiteral_spec (cs : List Char) :
    ⦃⌜True⌝⦄ publicLiteral cs ⦃Ends (· <:+ cs) allowed⦄ := by
  mvcgen [publicLiteral]

/-- The identifiers of an external part are checked and passed; nothing is fetched for them. -/
@[spec]
theorem externalId_spec (keyword : String) (cs : List Char) :
    ⦃⌜True⌝⦄ externalId keyword cs ⦃Ends (· <:+ cs) allowed⦄ := by
  mvcgen [externalId]
  grind

@[spec]
theorem notationDecl_spec (cs : List Char) :
    ⦃⌜True⌝⦄ notationDecl cs ⦃Ends (· <:+ cs) allowed⦄ := by
  mvcgen [notationDecl] <;> grind

@[spec]
theorem mixedContent_spec (fuel : Nat) (cs : List Char) :
    ⦃⌜True⌝⦄ mixedContent fuel cs ⦃Ends (· <:+ cs) allowed⦄ := by
  induction fuel generalizing cs with
  | zero => mvcgen [mixedContent]
  | succ fuel ih => mvcgen [mixedContent, ih] <;> grind

/-- Groups of elements, nested to any depth: the reader keeps the open groups in `levels`. -/
@[spec]
theorem groupContent_spec (fuel : Nat) (levels : List (Option DeclToken)) (expectsItem : Bool)
    (cs : List Char) :
    ⦃⌜True⌝⦄ groupContent fuel levels expectsItem cs ⦃Ends (· <:+ cs) allowed⦄ := by
  induction fuel generalizing levels expectsItem cs with
  | zero => mvcgen [groupContent]
  | succ fuel ih => mvcgen [groupContent, ih] <;> grind

@[spec]
theorem elementDecl_spec (cs : List Char) :
    ⦃⌜True⌝⦄ elementDecl cs ⦃Ends (· <:+ cs) allowed⦄ := by
  mvcgen [elementDecl] <;> grind

@[spec]
theorem enumeration_spec (namesOnly : Bool) (fuel : Nat) (cs : List Char) :
    ⦃⌜True⌝⦄ enumeration namesOnly fuel cs ⦃Ends (· <:+ cs) allowed⦄ := by
  induction fuel generalizing cs with
  | zero => mvcgen [enumeration]
  | succ fuel ih => mvcgen [enumeration, ih] <;> grind

/-- The type of an attribute, behind which its default value is read. -/
@[spec]
theorem attributeType_spec (cs : List Char) :
    ⦃⌜True⌝⦄ attributeType cs ⦃Leaves cs allowed⦄ := by
  mvcgen [attributeType] <;> grind

@[spec]
theorem fallbackValue_spec (doctype : Doctype) (isText : Bool) (text : List Char) :
    ⦃⌜True⌝⦄ fallbackValue doctype isText text ⦃Ends (fun _ => True) allowed⦄ := by
  mvcgen [fallbackValue]

/-- The declarations of any number of attributes; their default values are read as attributes are.
-/
@[spec]
theorem attributeDecls_spec (element : String) (fuel : Nat) (doctype : Doctype) (cs : List Char) :
    ⦃⌜True⌝⦄ attributeDecls element fuel doctype cs ⦃Leaves cs allowed⦄ := by
  induction fuel generalizing doctype cs with
  | zero => mvcgen [attributeDecls]
  | succ fuel ih => mvcgen [attributeDecls, ih] <;> grind

/-- The fault of a declared entity, whose declaration begins in the document. -/
def EntityDeclared (whole : List Char) (cause : Fault) : Prop :=
  cause = .entityDeclared ∧ "<!ENTITY".toList <:+: whole

/-- The keyword that a token carries shows the declaration of the entity. -/
@[grind →]
theorem entityDeclared_of_isWritten (written : (DeclToken.declare "ENTITY").IsWritten whole) :
    EntityDeclared whole .entityDeclared :=
  ⟨rfl, written⟩

/-- The only declaration that fails.  Its fault is allowed to a caller that has read the keyword. -/
@[spec]
theorem entityDecl_spec (doctype : Doctype) (cs : List Char) (holds : allowed .entityDeclared) :
    ⦃⌜True⌝⦄ entityDecl doctype cs ⦃Ends (· <:+ cs) allowed⦄ := by
  mvcgen [entityDecl] <;> grind

/-- The declarations inside a document type fail only for an entity, declared in the document. -/
@[spec]
theorem subset_spec (fuel : Nat) (doctype : Doctype) (behind : cs <:+ whole) :
    ⦃⌜True⌝⦄ subset fuel doctype cs ⦃Leaves whole (EntityDeclared whole)⦄ := by
  induction fuel generalizing doctype cs with
  | zero => mvcgen [subset]
  | succ fuel ih => mvcgen [subset, ih] <;> grind

/-- A document type with no internal part declares nothing; otherwise `subset_spec` applies. -/
@[spec]
theorem readDoctype_spec (doctype : Doctype) (behind : cs <:+ whole) :
    ⦃⌜True⌝⦄ readDoctype doctype cs ⦃Leaves whole (EntityDeclared whole)⦄ := by
  mvcgen [readDoctype] <;> grind

/-! ## Elements -/

@[spec]
theorem readAttributes_spec (lenient : Bool) (fuel : Nat) (cs : List Char) :
    ⦃⌜True⌝⦄ readAttributes lenient fuel cs ⦃Ends (fun _ => True) allowed⦄ := by
  induction fuel generalizing cs with
  | zero => mvcgen [readAttributes]
  | succ fuel ih => mvcgen [readAttributes, ih]

@[spec]
theorem passEndTag_spec (name : String) (cs : List Char) :
    ⦃⌜True⌝⦄ passEndTag name cs ⦃Ends (fun _ => True) allowed⦄ := by
  mvcgen [passEndTag]

@[spec]
theorem readSection_spec (cs : List Char) :
    ⦃⌜True⌝⦄ readSection cs ⦃Ends (fun _ => True) allowed⦄ := by
  mvcgen [readSection]

/-- An element is read without a fault. -/
theorem readers_spec (doctype : Doctype) (fuel : Nat) :
    (∀ cs, ⦃⌜True⌝⦄ readElement doctype fuel cs ⦃Ends (fun _ => True) allowed⦄) ∧
    (∀ cs, ⦃⌜True⌝⦄ readContent doctype fuel cs ⦃Ends (fun _ => True) allowed⦄) := by
  induction fuel with
  | zero => exact ⟨fun cs => by mvcgen [readElement], fun cs => by mvcgen [readContent]⟩
  | succ fuel ih =>
      obtain ⟨elements, contents⟩ := ih
      refine ⟨fun cs => ?_, fun cs => ?_⟩
      · mvcgen [readElement, contents]
      · mvcgen [readContent, elements, contents]

/-! ## Documents -/

@[spec]
theorem declarationPart_spec (cs : List Char) :
    ⦃⌜True⌝⦄ declarationPart cs ⦃Ends (fun _ => True) allowed⦄ := by
  mvcgen [declarationPart]

@[spec]
theorem declaresStandalone_spec (content : List Char) :
    ⦃⌜True⌝⦄ declaresStandalone content ⦃Ends (fun _ => True) allowed⦄ := by
  mvcgen [declaresStandalone]

@[spec]
theorem readDeclaration_spec (cs : List Char) :
    ⦃⌜True⌝⦄ readDeclaration cs ⦃Leaves cs allowed⦄ := by
  mvcgen [readDeclaration]
  grind

/-- What precedes the root element fails only for an entity, and the root element has no fault. -/
@[spec]
theorem readProlog_spec (fuel : Nat) (typed : Bool) (doctype : Doctype) (behind : cs <:+ whole) :
    ⦃⌜True⌝⦄ readProlog fuel typed doctype cs ⦃Ends (fun _ => True) (EntityDeclared whole)⦄ := by
  induction fuel generalizing typed doctype cs with
  | zero => mvcgen [readProlog]
  | succ fuel ih =>
      have elements : ∀ fuel cs,
          ⦃⌜True⌝⦄ readElement doctype fuel cs ⦃Ends (fun _ => True) (EntityDeclared whole)⦄ :=
        fun fuel => (readers_spec doctype fuel).1
      mvcgen [readProlog, ih, elements] <;> grind [skipBlanks_suffix]

@[spec]
theorem passEpilog_spec (fuel : Nat) (cs : List Char) :
    ⦃⌜True⌝⦄ passEpilog fuel cs ⦃Ends (fun _ => True) allowed⦄ := by
  induction fuel generalizing cs with
  | zero => mvcgen [passEpilog]
  | succ fuel ih => mvcgen [passEpilog, ih]

/-- A text without a line feed that starts a line feed is empty. -/
theorem eq_nil_of_prefix_line {part : List Char} (noLine : '\n' ∉ part)
    (front : part <+: '\n' :: rest) : part = [] := by
  obtain empty | ⟨others, same, -⟩ := List.prefix_cons_iff.mp front
  · exact empty
  · exact absurd (same ▸ List.mem_cons_self) noLine

/-- Unifying the line ends of a document puts no new text without a line feed in front of it. -/
theorem prefix_of_unifyLineFeeds {part : List Char} (noLine : '\n' ∉ part)
    (found : part <+: unifyLineFeeds cs) : part <+: cs := by
  -- The text is shortened in step with the document, so it is generalized as well.
  induction cs using unifyLineFeeds.induct generalizing part with
  | case1 => exact found
  | case2 rest _ =>
      rw [unifyLineFeeds.eq_2] at found
      exact eq_nil_of_prefix_line noLine found ▸ List.nil_prefix
  | case3 rest noPair _ =>
      rw [unifyLineFeeds.eq_3 rest noPair] at found
      exact eq_nil_of_prefix_line noLine found ▸ List.nil_prefix
  | case4 c rest noPair noReturn ih =>
      rw [unifyLineFeeds.eq_4 c rest noPair noReturn] at found
      obtain rfl | ⟨others, rfl, front⟩ := List.prefix_cons_iff.mp found
      · exact List.nil_prefix
      · have behind := ih (fun inside => noLine (List.mem_cons_of_mem c inside)) front
        exact List.cons_prefix_cons.mpr ⟨rfl, behind⟩

/-- A text without a line feed stands in a document if it does once the line ends are unified. -/
theorem infix_of_unifyLineFeeds {part : List Char} (noLine : '\n' ∉ part)
    (found : part <:+: unifyLineFeeds cs) : part <:+: cs := by
  have behindLine : ∀ {later : List Char}, part <:+: '\n' :: later → part <:+: later := by
    intro later inside
    obtain front | inside := List.infix_cons_iff.mp inside
    · exact eq_nil_of_prefix_line noLine front ▸ List.nil_infix
    · exact inside
  induction cs using unifyLineFeeds.induct with
  | case1 => exact found
  | case2 rest ih =>
      rw [unifyLineFeeds.eq_2] at found
      exact (ih (behindLine found)).trans (List.suffix_append ['\r', '\n'] rest).isInfix
  | case3 rest noPair ih =>
      rw [unifyLineFeeds.eq_3 rest noPair] at found
      exact (ih (behindLine found)).trans (List.suffix_cons '\r' rest).isInfix
  | case4 c rest noPair noReturn ih =>
      have same := unifyLineFeeds.eq_4 c rest noPair noReturn
      obtain front | inside := List.infix_cons_iff.mp (same ▸ found)
      · exact (prefix_of_unifyLineFeeds noLine (same ▸ front)).isInfix
      · exact (ih inside).trans (List.suffix_cons c rest).isInfix

theorem dropByteOrderMark_suffix (cs : List Char) : dropByteOrderMark cs <:+ cs := by
  unfold dropByteOrderMark
  grind

/-- An XML document fails only for an entity, whose declaration stands in it. -/
theorem entityDeclared_of_read {s : String} {cause : Fault}
    (failed : read s = .error (.fault cause)) : EntityDeclared s.toList cause := by
  have ends : ⦃⌜True⌝⦄ read s
      ⦃Ends (fun _ => True) (EntityDeclared (unifyLineFeeds (dropByteOrderMark s.toList)))⦄ := by
    mvcgen [read, readDocument]
  have declared := allowed_of_triple ends failed
  have inside := infix_of_unifyLineFeeds (by decide) declared.2
  exact ⟨declared.1, inside.trans (dropByteOrderMark_suffix s.toList).isInfix⟩

end PathExpr.Format.Xml

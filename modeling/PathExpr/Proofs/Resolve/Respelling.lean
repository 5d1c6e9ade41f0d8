import Mathlib.Logic.Relation
import PathExpr.Proofs.Chain.Alternatives
import PathExpr.Proofs.Resolve.Confinement

/-!
# Respelled expressions

The colon and the question marks of an expression have two forms each, and
blanks may stand at its ends and beside its separators.  None of that is looked
at once an expression is read: what counts is its tag and what its remainder
says, and the same tag with the same reading makes the same calls, in the same
order, for the same value.

A respelling is a chain of rewritings of the text.  Each of them keeps the tag
and the reading, and so the whole chain does.
-/

namespace PathExpr

open PathExpr.Expr PathExpr.Text

/-! ## Anatomy -/

/-- The trimmed tag of a text, and what stands behind its first colon; without a colon nothing. -/
def anatomy? (cs : List Char) : Option (String × Reading) :=
  match cs.dropWhile fun c => !isColon c with
  | [] => none
  | _ :: after => some (trim (String.ofList (cs.takeWhile fun c => !isColon c)), Reading.of after)

theorem anatomy?_of_append {before after : List Char} {mark : Char}
    (clear : ∀ c ∈ before, isColon c = false) (isMark : isColon mark = true) :
    anatomy? (before ++ mark :: after) = some (trim (String.ofList before), Reading.of after) := by
  have passed : ∀ c ∈ before, (!isColon c) = true := by
    simpa using clear
  simp [anatomy?, List.dropWhile_append_of_pos passed, List.takeWhile_append_of_pos passed, isMark]

theorem anatomy?_of_no_colon {cs : List Char} (clear : ∀ c ∈ cs, isColon c = false) :
    anatomy? cs = none := by
  have dropped : (cs.dropWhile fun c => !isColon c) = [] := by
    simpa [List.dropWhile_eq_nil_iff] using clear
  simp [anatomy?, dropped]

theorem isColon_of_allBlank {blanks : List Char} (blank : AllBlank blanks) :
    ∀ c ∈ blanks, isColon c = false :=
  fun c member => isColon_of_isBlank (blank c member)

theorem trim_surround {lead tail : List Char} (leadBlank : AllBlank lead)
    (tailBlank : AllBlank tail) (cs : List Char) :
    trim (String.ofList (lead ++ cs ++ tail)) = trim (String.ofList cs) := by
  simp [trim, trimChars_append_right _ tailBlank, trimChars_append_left leadBlank]

/-- The blanks at the ends of a text do not count. -/
theorem anatomy?_surround {lead tail : List Char} (leadBlank : AllBlank lead)
    (tailBlank : AllBlank tail) (cs : List Char) :
    anatomy? (lead ++ cs ++ tail) = anatomy? cs := by
  rcases exists_first_colon cs with clear | ⟨before, mark, after, rfl, isMark, clear⟩
  · have clearAll : ∀ c ∈ lead ++ cs ++ tail, isColon c = false := by
      intro c member
      simp only [List.mem_append] at member
      rcases member with (front | inside) | behind
      · exact isColon_of_allBlank leadBlank c front
      · exact clear c inside
      · exact isColon_of_allBlank tailBlank c behind
    rw [anatomy?_of_no_colon clear, anatomy?_of_no_colon clearAll]
  · have clearFront : ∀ c ∈ lead ++ before, isColon c = false := by
      intro c member
      rcases List.mem_append.mp member with front | inside
      · exact isColon_of_allBlank leadBlank c front
      · exact clear c inside
    have shape : lead ++ (before ++ mark :: after) ++ tail =
        (lead ++ before) ++ mark :: (after ++ tail) := by
      simp
    have nothing : AllBlank [] := List.forall_mem_nil _
    have tag := trim_surround leadBlank nothing before
    have reading := Reading.of_surround nothing tailBlank after
    rw [List.append_nil] at tag
    rw [List.nil_append] at reading
    rw [shape, anatomy?_of_append clearFront isMark, anatomy?_of_append clear isMark, tag, reading]

/-! ## Rewritings -/

/-- One rewriting of the concrete syntax of a text. -/
inductive Rewrites : List Char → List Char → Prop
  /-- Other blanks at the ends. -/
  | ends {lead lead' tail tail' : List Char} (leadBlank : AllBlank lead)
      (leadBlank' : AllBlank lead') (tailBlank : AllBlank tail) (tailBlank' : AllBlank tail')
      (cs : List Char) :
      Rewrites (lead ++ cs ++ tail) (lead' ++ cs ++ tail')
  /-- The other form of the first colon. -/
  | colon {before : List Char} {mark mark' : Char} (clear : ∀ c ∈ before, isColon c = false)
      (isMark : isColon mark = true) (isMark' : isColon mark' = true) (after : List Char) :
      Rewrites (before ++ mark :: after) (before ++ mark' :: after)
  /-- Other blanks beside the first colon. -/
  | besideColon {before left left' right right' : List Char} {mark : Char}
      (clear : ∀ c ∈ before, isColon c = false) (isMark : isColon mark = true)
      (leftBlank : AllBlank left) (leftBlank' : AllBlank left')
      (rightBlank : AllBlank right) (rightBlank' : AllBlank right') (after : List Char) :
      Rewrites (before ++ left ++ mark :: (right ++ after))
        (before ++ left' ++ mark :: (right' ++ after))
  /-- The other form of all question marks of the remainder, which has only one form. -/
  | questionMarks {before after : List Char} {mark question question' : Char}
      (clear : ∀ c ∈ before, isColon c = false) (isMark : isColon mark = true)
      (isQuestion : isQuestionMark question = true) (isQuestion' : isQuestionMark question' = true)
      (only : ∀ c ∈ after, isQuestionMark c = true → c = question) :
      Rewrites (before ++ mark :: after)
        (before ++ mark :: after.map fun c => if c = question then question' else c)
  /-- Other blanks beside a question mark of the form that comes first in the remainder. -/
  | besideQuestionMark {before front left left' right right' back : List Char}
      {mark question : Char} (clear : ∀ c ∈ before, isColon c = false)
      (isMark : isColon mark = true)
      (first : (front ++ left ++ question :: (right ++ back)).find? isQuestionMark =
        some question)
      (leftBlank : AllBlank left) (leftBlank' : AllBlank left')
      (rightBlank : AllBlank right) (rightBlank' : AllBlank right') :
      Rewrites (before ++ mark :: (front ++ left ++ question :: (right ++ back)))
        (before ++ mark :: (front ++ left' ++ question :: (right' ++ back)))

/-- A rewriting keeps the tag and what the remainder says. -/
theorem Rewrites.anatomy? {cs cs' : List Char} (rewrites : Rewrites cs cs') :
    PathExpr.anatomy? cs' = PathExpr.anatomy? cs := by
  cases rewrites with
  | ends leadBlank leadBlank' tailBlank tailBlank' cs =>
      rw [anatomy?_surround leadBlank tailBlank, anatomy?_surround leadBlank' tailBlank']
  | colon clear isMark isMark' after =>
      rw [anatomy?_of_append clear isMark, anatomy?_of_append clear isMark']
  | @besideColon before left left' right right' mark clear isMark leftBlank leftBlank' rightBlank
      rightBlank' after =>
      have read : ∀ left right, AllBlank left → AllBlank right →
          PathExpr.anatomy? (before ++ left ++ mark :: (right ++ after)) =
            some (trim (String.ofList before), Reading.of after) := by
        intro left right leftBlank rightBlank
        have nothing : AllBlank [] := List.forall_mem_nil _
        have tag := trim_surround nothing leftBlank before
        have reading := Reading.of_surround rightBlank nothing after
        have clearFront : ∀ c ∈ before ++ left, isColon c = false := by
          intro c member
          rcases List.mem_append.mp member with inside | behind
          · exact clear c inside
          · exact isColon_of_allBlank leftBlank c behind
        rw [List.nil_append] at tag
        rw [List.append_nil] at reading
        rw [anatomy?_of_append clearFront isMark, tag, reading]
      rw [read left right leftBlank rightBlank, read left' right' leftBlank' rightBlank']
  | questionMarks clear isMark isQuestion isQuestion' only =>
      rw [anatomy?_of_append clear isMark, anatomy?_of_append clear isMark,
        Reading.of_map isQuestion isQuestion' only]
  | besideQuestionMark clear isMark first leftBlank leftBlank' rightBlank rightBlank' =>
      rw [anatomy?_of_append clear isMark, anatomy?_of_append clear isMark,
        Reading.of_beside first leftBlank rightBlank leftBlank' rightBlank']

/-- The second text is the first one after any number of rewritings. -/
def Respelled (s t : String) : Prop :=
  Relation.ReflTransGen Rewrites s.toList t.toList

/-- A respelling keeps the tag and what the remainder says. -/
theorem Respelled.anatomy? {s t : String} (respelled : Respelled s t) :
    PathExpr.anatomy? t.toList = PathExpr.anatomy? s.toList := by
  unfold Respelled at respelled
  generalize t.toList = cs at respelled ⊢
  induction respelled with
  | refl => rfl
  | tail _ last ih => rw [last.anatomy?, ih]

/-! ## Meaning -/

namespace Resolver

variable (resolver : Resolver)

/-- The value of an expression with a tag and a reading. -/
def valueOf (ns : Namespace) (tag : String) (reading : Reading) : Traced (Option String) :=
  match reading with
  | .alone text =>
      if single : ns ≠ .proj then resolver.valueAt (.plain ns single) text
      else resolver.valueAt (.alone tag) text
  | .chain pieces =>
      Flow.value <$> select resolver.pathExists none
        (if single : ns ≠ .proj then
          pieces.map (Offer.ofPiece (resolver.valueAt (.plain ns single)))
        else resolver.projectOffers tag pieces)

/-- Evaluation looks at nothing but the tag and the reading. -/
theorem evaluate_eq_valueOf (ns : Namespace) (tag : String) (after : List Char) :
    resolver.evaluate ns tag (trim (String.ofList after)) =
      resolver.valueOf ns tag (Reading.of after) := by
  obtain ⟨lead, tail, whole, leadBlank, tailBlank⟩ := exists_blanks after
  have detected : questionMarkOf? (trim (String.ofList after)) =
      (after.find? isQuestionMark).map String.singleton := by
    have found := Reading.find?_surround (fun _ => isQuestionMark_of_isBlank) leadBlank tailBlank
      (trimChars after)
    rw [← whole] at found
    rw [questionMarkOf?_eq, toList_trim, String.toList_ofList, found]
  by_cases single : ns ≠ .proj
  · rw [evaluate_plain _ single, chainValue, detected, Reading.of]
    cases first : after.find? isQuestionMark with
    | none => simp [valueOf, single]
    | some mark =>
        have isMark := List.find?_some first
        simp only [Option.map_some, valueOf, dif_pos single, ← map_eq_pure_bind]
        rw [foldText_eq_select _ _ (by simp), plainOffers, trimmedPieces_trim isMark]
  · obtain rfl : ns = .proj := not_not.mp single
    rw [evaluate_project, detected, Reading.of]
    cases first : after.find? isQuestionMark with
    | none => simp [valueOf]
    | some mark =>
        have isMark := List.find?_some first
        simp only [Option.map_some, valueOf, dif_neg single]
        rw [trimmedPieces_trim isMark]

end Resolver

/-! ## Elements -/

/-- The chunks of a trimmed text are its anatomy. -/
theorem chunks_trim (s : String) :
    (anatomy? s.toList = none ∧ chunks (trim s) = []) ∨
      ∃ tag after, anatomy? s.toList = some (tag, Reading.of after) ∧
        chunks (trim s) = [tag, trim (String.ofList after)] := by
  obtain ⟨lead, tail, whole, leadBlank, tailBlank⟩ := exists_blanks s.toList
  have core : anatomy? s.toList = anatomy? (trim s).toList := by
    rw [toList_trim]
    conv_lhs => rw [whole]
    exact anatomy?_surround leadBlank tailBlank _
  rw [core]
  rcases exists_first_colon (trim s).toList with clear | ⟨before, mark, after, cut, isMark, clear⟩
  · left
    exact ⟨anatomy?_of_no_colon clear, chunks_of_no_colon clear⟩
  · right
    refine ⟨trim (String.ofList before), after, ?_, chunks_of_append cut isMark clear⟩
    rw [cut, anatomy?_of_append clear isMark]

namespace Resolver

variable (resolver : Resolver)

theorem recognize_trim_eq_some_iff {s : String} {ns : Namespace} :
    (resolver.recognize (trim s)).1 = some ns ↔
      ∃ tag reading, anatomy? s.toList = some (tag, reading) ∧
        Namespace.ofTag? tag = some ns ∧ resolver.config.enabled ns = true := by
  rcases chunks_trim s with ⟨nowhere, parts⟩ | ⟨tag, after, here, parts⟩
  · simp [recognize, parts, nowhere]
  · simp [recognize, parts, here, Option.filter_eq_some_iff]

/-- The value of an element that is recognized comes from its tag and its reading. -/
theorem resolveElement_of_anatomy {s : String} {tag : String} {reading : Reading} {ns : Namespace}
    (parts : anatomy? s.toList = some (tag, reading)) (named : Namespace.ofTag? tag = some ns)
    (enabled : resolver.config.enabled ns = true) :
    resolver.resolveElement s = do
      let value ← resolver.valueOf ns tag reading
      Traced.remark (.resolved (trim s) value)
      return .expression value := by
  rcases chunks_trim s with ⟨nowhere, -⟩ | ⟨tag', after, here, chunked⟩
  · simp [nowhere] at parts
  · rw [here, Option.some.injEq, Prod.mk.injEq] at parts
    obtain ⟨rfl, rfl⟩ := parts
    rw [resolver.resolveElement_of_recognized chunked named enabled, evaluate_eq_valueOf]

theorem outcome_remarked {α β : Type} (first : Traced α) (note : α → Note) (result : α → β) :
    (do let value ← first; Traced.remark (note value); return result value : Traced β).outcome =
      result <$> first.outcome := by
  rcases first with ⟨events, _ | value⟩ <;> rfl

theorem calls_remarked {α β : Type} (first : Traced α) (note : α → Note) (result : α → β) :
    (do let value ← first; Traced.remark (note value); return result value : Traced β).calls =
      first.calls := by
  rcases first with ⟨events, fault | value⟩
  · rfl
  · simp [Traced.calls, Traced.bind_of_ok, Traced.remark, Traced.emit, Event.isCall]

/--
An expression means the same however it is spelled.  A text that is recognized
as an expression of a namespace and any respelling of it are recognized alike
and have the same outcome, a fault included, after the same lookups and
questions about existing paths in the same order.
-/
theorem resolveElement_respelled {s t : String} {ns : Namespace}
    (recognized : (resolver.recognize (trim s)).1 = some ns) (respelled : Respelled s t) :
    (resolver.recognize (trim t)).1 = some ns ∧
      (resolver.resolveElement t).outcome = (resolver.resolveElement s).outcome ∧
      (resolver.resolveElement t).calls = (resolver.resolveElement s).calls := by
  obtain ⟨tag, reading, parts, named, enabled⟩ :=
    resolver.recognize_trim_eq_some_iff.mp recognized
  have kept : anatomy? t.toList = some (tag, reading) := by
    rw [respelled.anatomy?, parts]
  have still : (resolver.recognize (trim t)).1 = some ns :=
    resolver.recognize_trim_eq_some_iff.mpr ⟨tag, reading, kept, named, enabled⟩
  -- Both elements are resolved from the same parts; only the remarks show how they are spelled.
  have before := resolver.resolveElement_of_anatomy parts named enabled
  have after := resolver.resolveElement_of_anatomy kept named enabled
  refine ⟨still, ?_, ?_⟩
  · rw [before, after, outcome_remarked, outcome_remarked]
  · rw [before, after, calls_remarked, calls_remarked]

/-- A doubled question mark in the full width still asks for the path, with a blank inside. -/
theorem resolveElement_respelled_in_full_width :
    let resolver : Resolver := ⟨Config.default, .constant fun _ => some "/x", fun _ => false⟩
    (resolver.recognize (trim "$env:a??")).1 = some .env ∧
      Respelled "$env:a??" " $env：a？ ？" ∧
      (resolver.resolveElement " $env：a？ ？").outcome = .ok (.expression none) ∧
      (resolver.resolveElement " $env：a？ ？").calls = [.lookup .env "A", .probe "/x"] := by
  intro resolver
  have recognized : (resolver.recognize (trim "$env:a??")).1 = some .env := by
    decide
  have nothing : AllBlank [] := List.forall_mem_nil _
  have space : AllBlank [' '] := by
    simp [AllBlank, isBlank]
  have clear : ∀ c ∈ ['$', 'e', 'n', 'v'], isColon c = false := by
    simp [isColon]
  have colon : Rewrites (['$', 'e', 'n', 'v'] ++ ':' :: ['a', '?', '?'])
      (['$', 'e', 'n', 'v'] ++ '：' :: ['a', '?', '?']) :=
    .colon clear rfl rfl _
  have questions : Rewrites (['$', 'e', 'n', 'v'] ++ '：' :: ['a', '?', '?'])
      (['$', 'e', 'n', 'v'] ++ '：' :: ['a', '?', '?'].map fun c => if c = '?' then '？' else c) :=
    .questionMarks clear rfl rfl rfl (by simp [isQuestionMark])
  have beside : Rewrites
      (['$', 'e', 'n', 'v'] ++ '：' :: (['a'] ++ [] ++ '？' :: ([] ++ ['？'])))
      (['$', 'e', 'n', 'v'] ++ '：' :: (['a'] ++ [] ++ '？' :: ([' '] ++ ['？']))) :=
    .besideQuestionMark clear rfl rfl nothing nothing nothing space
  have ends : Rewrites ([] ++ "$env：a？ ？".toList ++ []) ([' '] ++ "$env：a？ ？".toList ++ []) :=
    .ends nothing space nothing nothing _
  have respelled : Respelled "$env:a??" " $env：a？ ？" :=
    .head colon (.head questions (.head beside (.single ends)))
  obtain ⟨-, outcome, calls⟩ := resolver.resolveElement_respelled recognized respelled
  refine ⟨recognized, respelled, ?_, ?_⟩
  · rw [outcome]
    rfl
  · rw [calls]
    rfl

end Resolver

end PathExpr

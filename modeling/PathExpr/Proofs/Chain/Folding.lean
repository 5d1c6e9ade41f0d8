import PathExpr.Expr.Folding
import PathExpr.Proofs.Chain.Plain
import PathExpr.Proofs.Text.Recasing

/-!
# Folded chains

Folding takes a chain apart at its question mark, folds the alternatives that
are not references, and joins them again; the fold over the chain then takes
the joined text apart once more.  Nothing is lost on the way.  A folding that
leaves the structure of texts alone keeps the question mark that separates, and
the folded chain has piece by piece what the written one has.
-/

namespace PathExpr.Expr

open PathExpr.Text

/-! ## References are recognized in spite of blanks -/

theorem startsReference_of_not_mem {s : String} (absent : '*' ∉ s.toList) :
    startsReference s = false := by
  have none : cut? "*" s = none := by
    rw [cut?, show "*".toList = ['*'] from rfl, cutChars?_of_not_mem absent]
    rfl
  simp [startsReference, none]

theorem startsReference_of_append {s : String} {before after : List Char}
    (whole : s.toList = before ++ '*' :: after) (absent : '*' ∉ before) :
    startsReference s = (Namespace.ofLead? (trim (String.ofList before))).isSome := by
  have found : cut? "*" s = some (String.ofList before, String.ofList after) := by
    rw [cut?, show "*".toList = ['*'] from rfl, whole, cutChars?_append absent]
    rfl
  simp [startsReference, found]

theorem not_mem_of_allBlank {cs : List Char} (blank : AllBlank cs) {c : Char}
    (dark : isBlank c = false) : c ∉ cs := by
  intro member
  rw [blank c member] at dark
  cases dark

theorem startsReference_trim (s : String) : startsReference (trim s) = startsReference s := by
  rcases exists_blanks s.toList with ⟨lead, tail, whole, leadBlank, tailBlank⟩
  have noLead := not_mem_of_allBlank leadBlank (show isBlank '*' = false by decide)
  have noTail := not_mem_of_allBlank tailBlank (show isBlank '*' = false by decide)
  by_cases present : '*' ∈ trimChars s.toList
  · rcases List.eq_append_cons_of_mem present with ⟨before, after, core, absent⟩
    have written : s.toList = (lead ++ before) ++ '*' :: (after ++ tail) := by
      rw [whole, core]
      simp
    have clear : '*' ∉ lead ++ before := by
      simp [noLead, absent]
    rw [startsReference_of_append (by rw [toList_trim, core]) absent,
      startsReference_of_append written clear]
    simp [trim, trimChars_append_left leadBlank]
  · have absent : '*' ∉ s.toList := by
      rw [whole]
      simp [noLead, noTail, present]
    rw [startsReference_of_not_mem (by rwa [toList_trim]), startsReference_of_not_mem absent]

theorem exists_small_of_word (ns : Namespace) :
    ∃ c others, ns.word.toList = c :: others ∧
      smallLetters.1 ≤ c.toNat ∧ c.toNat ≤ smallLetters.2 := by
  cases ns with
  | env => exact ⟨'e', ['n', 'v'], by decide⟩
  | dir => exact ⟨'d', ['i', 'r'], by decide⟩
  | const => exact ⟨'c', ['o', 'n', 's', 't'], by decide⟩
  | proj => exact ⟨'p', ['r', 'o', 'j'], by decide⟩
  | val => exact ⟨'v', ['a', 'l'], by decide⟩

/-- A reference has a small letter in it, the first one of its namespace. -/
theorem exists_small_of_startsReference {s : String} (reference : startsReference s = true) :
    ∃ c ∈ s.toList, smallLetters.1 ≤ c.toNat ∧ c.toNat ≤ smallLetters.2 := by
  by_cases present : '*' ∈ s.toList
  · rcases List.eq_append_cons_of_mem present with ⟨before, after, whole, absent⟩
    rw [startsReference_of_append whole absent] at reference
    rcases Option.isSome_iff_exists.mp reference with ⟨ns, lead⟩
    rw [Namespace.ofLead?] at lead
    have starts := List.find?_some lead
    rcases Option.isSome_iff_exists.mp starts with ⟨rest, behind⟩
    have word := afterLead?_eq_some.mp behind
    rcases exists_small_of_word ns with ⟨c, others, letters, small⟩
    have member : c ∈ (trim (String.ofList before)).toList := by
      simp [word, letters]
    have inside : c ∈ before := by
      simpa using (infix_trim _).subset member
    exact ⟨c, by simp [whole, inside], small⟩
  · rw [startsReference_of_not_mem present] at reference
    cases reference

/-! ## Foldings that leave structure alone -/

/-- A folding of texts under which blanks, marks and emptiness stay as they are. -/
structure Transparent (fold : String → String) : Prop where
  trim_fold : ∀ s, trim (fold s) = fold (trim s)
  fold_eq_empty_iff : ∀ s, fold s = "" ↔ s = ""
  mem_fold_iff : ∀ s c, Fixed c → (c ∈ (fold s).toList ↔ c ∈ s.toList)

/-- A change of characters is transparent when blanks around a text have no part in it. -/
theorem Transparent.ofRecased {fold : String → String} {image : List Char → List Char}
    (written : ∀ s, (fold s).toList = image s.toList)
    (recased : ∀ cs, Recased cs (image cs))
    (surround : ∀ lead core tail, AllBlank lead → AllBlank tail →
      image (lead ++ core ++ tail) = lead ++ image core ++ tail) : Transparent fold where
  trim_fold := by
    intro s
    apply String.toList_inj.mp
    rcases exists_blanks s.toList with ⟨lead, tail, whole, leadBlank, tailBlank⟩
    rw [toList_trim, written, written, toList_trim]
    conv_lhs => rw [whole, surround lead _ tail leadBlank tailBlank]
    exact trimChars_surround leadBlank ((recased _).isTrimmed (isTrimmed_trimChars _)) tailBlank
  fold_eq_empty_iff := by
    intro s
    rw [← String.toList_eq_nil_iff, written, (recased _).eq_nil_iff, String.toList_eq_nil_iff]
  mem_fold_iff := by
    intro s c fixed
    rw [written, (recased _).mem_iff fixed]

/-- The characters that a character becomes in the name of an environment variable. -/
def envImage (c : Char) : List Char :=
  (upperChar c).map fun d => if d = '-' then '_' else d

theorem toList_foldEnvIdent (s : String) : (foldEnvIdent s).toList = s.toList.flatMap envImage := by
  rw [foldEnvIdent, show "-" = String.singleton '-' by decide,
    show "_" = String.singleton '_' by decide, toList_replace, upper, String.toList_ofList,
    List.map_flatMap]
  rfl

theorem envImage_of_fixed (c : Char) (fixed : Fixed c) : envImage c = [c] := by
  simp [envImage, fixed.upperChar, fixed.2]

theorem eq_of_mem_envImage (c d : Char) (member : d ∈ envImage c) (fixed : Fixed d) : d = c := by
  rcases List.mem_map.mp member with ⟨source, inside, same⟩
  split at same
  · subst same
    exact absurd fixed (by decide)
  · subst same
    exact (fixed.eq_of_mem_upperChar inside).symm

theorem flatMap_envImage_surround {lead tail : List Char} (leadBlank : AllBlank lead)
    (core : List Char) (tailBlank : AllBlank tail) :
    (lead ++ core ++ tail).flatMap envImage = lead ++ core.flatMap envImage ++ tail := by
  rw [List.flatMap_append, List.flatMap_append, flatMap_of_allBlank envImage_of_fixed leadBlank,
    flatMap_of_allBlank envImage_of_fixed tailBlank]

theorem transparent_foldEnvIdent : Transparent foldEnvIdent :=
  .ofRecased toList_foldEnvIdent
    (recased_flatMap (fun c => by simp [envImage, upperChar_ne_nil]) envImage_of_fixed
      eq_of_mem_envImage)
    (fun _ core _ leadBlank tailBlank => flatMap_envImage_surround leadBlank core tailBlank)

/-- The name of an environment variable is no reference, whatever it was folded from. -/
theorem startsReference_foldEnvIdent (s : String) : startsReference (foldEnvIdent s) = false := by
  cases reference : startsReference (foldEnvIdent s) with
  | false => rfl
  | true =>
      rcases exists_small_of_startsReference reference with ⟨c, member, low, high⟩
      rw [toList_foldEnvIdent, List.mem_flatMap] at member
      rcases member with ⟨source, -, image⟩
      rcases List.mem_map.mp image with ⟨d, upper, same⟩
      split at same
      · subst same
        exact absurd low (by decide)
      · subst same
        exact (not_mem_upperChar low high source upper).elim

theorem toList_foldIdent (s : String) : (foldIdent s).toList = lowerFrom [] s.toList := by
  simp [foldIdent, lower]

theorem transparent_foldIdent : Transparent foldIdent :=
  .ofRecased toList_foldIdent (recased_lowerFrom [])
    (fun _ core _ leadBlank tailBlank => lowerFrom_surround leadBlank core tailBlank)

theorem transparent_foldFor (ns : Namespace) : Transparent (foldFor ns) := by
  cases ns with
  | env => exact transparent_foldEnvIdent
  | dir | const | proj | val => exact transparent_foldIdent

/-- Folding all pieces but references leaves structure alone as well. -/
theorem Transparent.foldPiece {fold : String → String} (clear : Transparent fold) :
    Transparent (foldPiece fold) where
  trim_fold := by
    intro s
    unfold Expr.foldPiece
    rw [startsReference_trim]
    split
    · rfl
    · exact clear.trim_fold s
  fold_eq_empty_iff := by
    intro s
    unfold Expr.foldPiece
    split
    · rfl
    · exact clear.fold_eq_empty_iff s
  mem_fold_iff := by
    intro s c fixed
    unfold Expr.foldPiece
    split
    · rfl
    · exact clear.mem_fold_iff s c fixed

/-! ## The folded chain -/

theorem fixed_of_isQuestionMark {mark : Char} (isMark : isQuestionMark mark = true) :
    Fixed mark := by
  simp only [isQuestionMark, Bool.or_eq_true, beq_iff_eq] at isMark
  rcases isMark with rfl | rfl <;> decide

theorem foldIdents_of_none (fold : String → String) {s : String}
    (unmarked : questionMarkOf? s = none) : foldIdents fold s = foldPiece fold s := by
  simp [foldIdents, unmarked]

theorem foldIdents_of_some (fold : String → String) {s separator : String}
    (marked : questionMarkOf? s = some separator) :
    foldIdents fold s = join separator ((split separator s).map (foldPiece fold)) := by
  simp [foldIdents, marked]

section Folded

variable {fold : String → String} (clear : Transparent fold) {s separator : String}
variable (marked : questionMarkOf? s = some separator)

include clear marked

/-- The folded chain is taken apart into the folded pieces. -/
theorem split_foldIdents :
    split separator (foldIdents fold s) = (split separator s).map (foldPiece fold) := by
  obtain ⟨before, mark, after, whole, rfl, isMark, absent⟩ := questionMarkOf?_eq_some_iff.mp marked
  rw [foldIdents_of_some fold marked]
  apply split_join
  · simp [split_ne_nil]
  · intro piece member
    rcases List.mem_map.mp member with ⟨written, inside, rfl⟩
    rw [clear.foldPiece.mem_fold_iff _ _ (fixed_of_isQuestionMark isMark)]
    exact not_mem_of_mem_split inside

/-- The question mark that separates is the one of the written chain. -/
theorem questionMarkOf?_foldIdents_of_some :
    questionMarkOf? (foldIdents fold s) = some separator := by
  obtain ⟨before, mark, after, whole, rfl, isMark, absent⟩ := questionMarkOf?_eq_some_iff.mp marked
  have unmarked : mark ∉ before := by
    intro member
    simp [absent mark member] at isMark
  -- The first piece of the chain has no question mark of either form, folded or not.
  have pieces : split (String.singleton mark) s =
      String.ofList before :: (after.splitOn mark).map String.ofList := by
    rw [split_singleton, whole, List.splitOn_append_cons_self_of_not_mem unmarked]
    rfl
  rcases List.exists_cons_of_ne_nil (List.splitOn_ne_nil mark after) with ⟨second, others, rest⟩
  have folded : (foldIdents fold s).toList =
      (foldPiece fold (String.ofList before)).toList ++ mark ::
        (join (String.singleton mark)
          (((after.splitOn mark).map String.ofList).map (foldPiece fold))).toList := by
    rw [foldIdents_of_some fold marked, pieces, rest]
    simp [join]
  refine questionMarkOf?_eq_some_iff.mpr ⟨_, mark, _, folded, rfl, isMark, ?_⟩
  intro c member
  cases question : isQuestionMark c with
  | false => rfl
  | true =>
      rw [clear.foldPiece.mem_fold_iff _ _ (fixed_of_isQuestionMark question)] at member
      rw [absent c (by simpa using member)] at question
      cases question

theorem splitTerminated_foldIdents :
    splitTerminated separator (foldIdents fold s) =
      (splitTerminated separator s).map (foldPiece fold) := by
  have nonempty : ∀ {t : String}, questionMarkOf? t = some separator → t ≠ "" := by
    rintro t found rfl
    rw [questionMarkOf?_eq] at found
    cases found
  rw [splitTerminated_of_ne_empty (nonempty (questionMarkOf?_foldIdents_of_some clear marked)),
    splitTerminated_of_ne_empty (nonempty marked), split_foldIdents clear marked,
    List.getLast?_map]
  have final : (split separator s).getLast?.map (foldPiece fold) = some "" ↔
      (split separator s).getLast? = some "" := by
    rw [Option.map_eq_some_iff]
    constructor
    · rintro ⟨piece, found, same⟩
      rw [found, (clear.foldPiece.fold_eq_empty_iff piece).mp same]
    · intro found
      exact ⟨"", found, (clear.foldPiece.fold_eq_empty_iff "").mpr rfl⟩
  by_cases ends : (split separator s).getLast? = some ""
  · rw [if_pos (final.mpr ends), if_pos ends, List.map_dropLast]
  · rw [if_neg fun found => ends (final.mp found), if_neg ends]

theorem trimmedPieces_foldIdents :
    trimmedPieces separator (foldIdents fold s) =
      (trimmedPieces separator s).map (foldPiece fold) := by
  rw [trimmedPieces, trimmedPieces, splitTerminated_foldIdents clear marked, List.map_map,
    List.map_map]
  apply List.map_congr_left
  intro piece _
  rw [Function.comp_apply, Function.comp_apply, clear.foldPiece.trim_fold]

end Folded

/-- Folding neither makes nor removes a question mark. -/
theorem questionMarkOf?_foldIdents {fold : String → String} (clear : Transparent fold)
    (s : String) : questionMarkOf? (foldIdents fold s) = questionMarkOf? s := by
  cases marked : questionMarkOf? s with
  | some separator => exact questionMarkOf?_foldIdents_of_some clear marked
  | none =>
      rw [foldIdents_of_none fold marked, questionMarkOf?_eq_none_iff]
      intro c member
      cases question : isQuestionMark c with
      | false => rfl
      | true =>
          rw [clear.foldPiece.mem_fold_iff _ _ (fixed_of_isQuestionMark question)] at member
          rw [questionMarkOf?_eq_none_iff.mp marked c member] at question
          cases question

theorem Offer.ofPiece_foldPiece {fold : String → String} (clear : Transparent fold)
    (lookup : Lookup) (piece : String) :
    Offer.ofPiece lookup (Expr.foldPiece fold piece) =
      Offer.ofPiece (fun ident => lookup (Expr.foldPiece fold ident)) piece := by
  simp only [Offer.ofPiece, clear.foldPiece.fold_eq_empty_iff]

/--
The chain of the folded alternatives has the value of the written chain, where
every alternative is folded on its own before it is looked up.
-/
theorem chainValue_foldIdents {fold : String → String} (clear : Transparent fold)
    (pathExists : String → Bool) (lookup : Lookup) (s : String) :
    chainValue pathExists lookup (foldIdents fold s) =
      chainValue pathExists (fun ident => lookup (foldPiece fold ident)) s := by
  have detected := questionMarkOf?_foldIdents clear s
  cases marked : questionMarkOf? s with
  | none =>
      rw [marked] at detected
      simp only [chainValue, detected, marked]
      rw [foldIdents_of_none fold marked]
  | some separator =>
      rw [marked] at detected
      have nonempty := questionMarkOf?_ne_empty marked
      have offered : plainOffers lookup separator (foldIdents fold s) =
          plainOffers (fun ident => lookup (foldPiece fold ident)) separator s := by
        rw [plainOffers, trimmedPieces_foldIdents clear marked, List.map_map, plainOffers]
        exact List.map_congr_left fun piece _ => Offer.ofPiece_foldPiece clear lookup piece
      have folded : foldText pathExists lookup separator (foldIdents fold s) =
          foldText pathExists (fun ident => lookup (foldPiece fold ident)) separator s := by
        rw [foldText_eq_select _ _ nonempty, foldText_eq_select _ _ nonempty, offered]
      simp only [chainValue, detected, marked, folded]

end PathExpr.Expr

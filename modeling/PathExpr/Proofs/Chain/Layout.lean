import Mathlib.Data.List.Forall2
import PathExpr.Proofs.Chain.Folding

/-!
# The layout of a folded chain

A folded chain is taken apart again by the operations that the written chain
would be taken apart by.  The question mark that separates in it is the same,
and so are the number of its pieces, which of them are empty, and the blanks
around each: a piece is kept where it is a reference and folded where it is not,
at its own place.

Changes of case that make a text longer have no part in this, nor has a question
mark of the other form, which is a character like any other inside a piece.
-/

namespace PathExpr.Expr

open PathExpr.Text

/-! ## One piece -/

/-- A folding under which the blanks at both ends of a text stay the same blanks. -/
def KeepsBlanks (fold : String → String) : Prop :=
  ∀ (s : String) (lead core tail : List Char), AllBlank lead → AllBlank tail →
    s.toList = lead ++ core ++ tail →
      (fold s).toList = lead ++ (fold (String.ofList core)).toList ++ tail

theorem keepsBlanks_foldEnvIdent : KeepsBlanks foldEnvIdent := by
  intro s lead core tail leadBlank tailBlank whole
  rw [toList_foldEnvIdent, toList_foldEnvIdent, String.toList_ofList, whole]
  exact flatMap_envImage_surround leadBlank core tailBlank

theorem keepsBlanks_foldIdent : KeepsBlanks foldIdent := by
  intro s lead core tail leadBlank tailBlank whole
  rw [toList_foldIdent, toList_foldIdent, String.toList_ofList, whole]
  exact lowerFrom_surround leadBlank core tailBlank

/-- A piece of a folded chain, beside the piece that was written at its place. -/
structure PieceFolded (fold : String → String) (written folded : String) : Prop where
  /-- A reference is kept as it was written, any other piece is folded. -/
  folded_eq : folded = if startsReference written then written else fold written
  /-- No piece becomes empty, and no empty piece is filled. -/
  eq_empty_iff : folded = "" ↔ written = ""
  /-- The same holds of what is left of the pieces when they are trimmed. -/
  trim_eq_empty_iff : trim folded = "" ↔ trim written = ""
  /-- The blanks in front of the piece and behind it are those that were written. -/
  blanks : ∃ lead tail, AllBlank lead ∧ AllBlank tail ∧
    written.toList = lead ++ (trim written).toList ++ tail ∧
    folded.toList = lead ++ (trim folded).toList ++ tail

theorem pieceFolded_foldPiece {fold : String → String} (clear : Transparent fold)
    (keeps : KeepsBlanks fold) (written : String) :
    PieceFolded fold written (foldPiece fold written) where
  folded_eq := rfl
  eq_empty_iff := clear.foldPiece.fold_eq_empty_iff written
  trim_eq_empty_iff := by
    rw [clear.foldPiece.trim_fold, clear.foldPiece.fold_eq_empty_iff]
  blanks := by
    rcases exists_blanks written.toList with ⟨lead, tail, whole, leadBlank, tailBlank⟩
    refine ⟨lead, tail, leadBlank, tailBlank, by rwa [toList_trim], ?_⟩
    rw [clear.foldPiece.trim_fold]
    unfold foldPiece
    rw [startsReference_trim]
    split
    · rwa [toList_trim]
    · exact keeps written lead _ tail leadBlank tailBlank whole

/-! ## All pieces -/

/-- What folding does to a chain, piece by piece. -/
structure KeepsLayout (fold : String → String) (chain : String) : Prop where
  /-- The same question mark separates, if any does. -/
  questionMark : questionMarkOf? (foldIdents fold chain) = questionMarkOf? chain
  /-- A chain without a question mark is one piece. -/
  lone : questionMarkOf? chain = none → PieceFolded fold chain (foldIdents fold chain)
  /-- The full split has the folded pieces at the places of the written ones. -/
  pieces : ∀ separator, questionMarkOf? chain = some separator →
    List.Forall₂ (PieceFolded fold) (split separator chain)
      (split separator (foldIdents fold chain))
  /-- So have the pieces that the separator ends, and none of them has the separator in it. -/
  ended : ∀ separator, questionMarkOf? chain = some separator →
    ∃ written folded, terminated separator chain = .ok written ∧
      terminated separator (foldIdents fold chain) = .ok folded ∧
      List.Forall₂ (PieceFolded fold) written folded ∧
      ∀ piece ∈ folded, ¬ separator.toList <:+: piece.toList

section Layout

variable {fold : String → String} (clear : Transparent fold) (keeps : KeepsBlanks fold)

include clear keeps

theorem forall₂_map_foldPiece (pieces : List String) :
    List.Forall₂ (PieceFolded fold) pieces (pieces.map (foldPiece fold)) := by
  rw [List.forall₂_map_right_iff, List.forall₂_same]
  exact fun piece _ => pieceFolded_foldPiece clear keeps piece

theorem keepsLayout (chain : String) : KeepsLayout fold chain where
  questionMark := questionMarkOf?_foldIdents clear chain
  lone := by
    intro unmarked
    rw [foldIdents_of_none fold unmarked]
    exact pieceFolded_foldPiece clear keeps chain
  pieces := by
    intro separator marked
    rw [split_foldIdents clear marked]
    exact forall₂_map_foldPiece clear keeps _
  ended := by
    intro separator marked
    have nonempty := questionMarkOf?_ne_empty marked
    refine ⟨_, _, terminated_eq nonempty chain, terminated_eq nonempty _, ?_, ?_⟩
    · rw [splitTerminated_foldIdents clear marked]
      exact forall₂_map_foldPiece clear keeps _
    · exact (endedPieces_splitTerminated nonempty).clear

end Layout

/--
Folding keeps the layout of every chain, whether its identifiers are folded to the names of
environment variables or to lower case.
-/
theorem foldIdents_keepsLayout (chain : String) :
    KeepsLayout foldEnvIdent chain ∧ KeepsLayout foldIdent chain := by
  constructor
  · exact keepsLayout transparent_foldEnvIdent keepsBlanks_foldEnvIdent chain
  · exact keepsLayout transparent_foldIdent keepsBlanks_foldIdent chain

/--
Both forms of the question mark in one chain, texts that are longer in another case, a capital
sigma at the end of a word, an empty piece and a reference.
-/
theorem foldIdents_keepsLayout_of_both_forms :
    let chain := "ΑΣ ？ groß?İ-x ？？ env * Home ？"
    let written := ["ΑΣ ", " groß?İ-x ", "", " env * Home "]
    questionMarkOf? chain = some "？" ∧ terminated "？" chain = .ok written ∧
      foldIdents foldEnvIdent chain = "ΑΣ ？ GROSS?İ_X ？？ env * Home ？" ∧
      List.Forall₂ (PieceFolded foldEnvIdent) written
        ["ΑΣ ", " GROSS?İ_X ", "", " env * Home "] ∧
      foldIdents foldIdent chain = "ας ？ groß?i̇-x ？？ env * Home ？" ∧
      List.Forall₂ (PieceFolded foldIdent) written
        ["ας ", " groß?i̇-x ", "", " env * Home "] := by
  intro chain written
  have marked : questionMarkOf? chain = some "？" := by
    decide
  have nonempty : "？" ≠ "" := by
    decide
  have parted : terminated "？" chain = .ok written := by
    rw [terminated_eq nonempty, show splitTerminated "？" chain = written by decide +kernel]
  have upper : foldIdents foldEnvIdent chain = "ΑΣ ？ GROSS?İ_X ？？ env * Home ？" := by
    decide +kernel
  have lower : foldIdents foldIdent chain = "ας ？ groß?i̇-x ？？ env * Home ？" := by
    decide +kernel
  have beside : ∀ {fold : String → String} {folded : String} {pieces : List String},
      KeepsLayout fold chain → foldIdents fold chain = folded →
      splitTerminated "？" folded = pieces → List.Forall₂ (PieceFolded fold) written pieces := by
    rintro fold _ _ keeps rfl rfl
    rcases keeps.ended "？" marked with ⟨_, _, ran, ranFolded, same, -⟩
    rw [parted] at ran
    rw [terminated_eq nonempty] at ranFolded
    cases ran
    cases ranFolded
    exact same
  rcases foldIdents_keepsLayout chain with ⟨names, others⟩
  exact ⟨marked, parted, upper, beside names upper (by decide +kernel), lower,
    beside others lower (by decide +kernel)⟩

end PathExpr.Expr

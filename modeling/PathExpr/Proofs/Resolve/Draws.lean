import Mathlib.Data.Nat.Digits.Defs
import PathExpr.Proofs.Config.Judged
import PathExpr.Proofs.Number.Digits
import PathExpr.Proofs.Resolve.Dispatch
import PathExpr.Proofs.Resolve.Faults
import PathExpr.Proofs.Resolve.Place
import PathExpr.Proofs.Table.Bases

/-!
# Lengths of random texts

The length of a random text is written in decimal digits behind a dash.  Only a run of
ASCII digits that writes a number within the bound is taken; behind anything else the
length of the configuration stands.  A configuration keeps to the same bound, and so no
produced value is longer.

A value that is asked for through references is the one that the table produces,
however many references lead there.  The bound is therefore one of every alternative
that asks this table.
-/

namespace PathExpr

open PathExpr.Text PathExpr.Number

/-! ## Drawn characters -/

theorem isAlphanum_drawnChar : ∀ draw : Fin 62, (drawnChar draw).isAlphanum = true := by
  decide +kernel

theorem World.length_randomText (world : World) (length : Nat) :
    (world.randomText length).length = length := by
  simp [randomText, ← String.length_toList]

theorem World.isAlphanum_of_mem_randomText (world : World) (length : Int) :
    ∀ c ∈ (world.randomText length).toList, c.isAlphanum = true := by
  intro c member
  rw [randomText, String.toList_ofList] at member
  obtain ⟨position, -, rfl⟩ := List.mem_map.mp member
  exact isAlphanum_drawnChar _

/-! ## Written lengths -/

/-- The number that decimal digits write, the last of them being the units. -/
def decimal (digits : List Char) : Nat :=
  Nat.ofDigits 10 (digits.reverse.map fun c => c.toNat - '0'.toNat)

theorem ofDigits_eq_decimal {digits : List Char} (run : ∀ c ∈ digits, c.isDigit = true) :
    ofDigits 10 digits = decimal digits := by
  induction digits using List.reverseRecOn with
  | nil => rfl
  | append_singleton digits c ih =>
      obtain ⟨front, last⟩ := List.forall_mem_append.mp run
      have digit : digitValue? c = some (c.toNat - '0'.toNat) := by
        have isDigit : Number.isDigit c = true := by
          rw [isDigit_eq]
          exact last c (List.mem_singleton_self c)
        exact if_pos isDigit
      rw [ofDigits_append_singleton, ih front, digit]
      simp [decimal, Nat.ofDigits_cons]
      omega

/--
The length that a text behind the dash asks for: the number that it writes in decimal
digits, if it does and the number is within the bound, or else the standing length.
-/
def requestedLength (written : List Char) (standing : Nat) : Nat :=
  if written ≠ [] ∧ (∀ c ∈ written, c.isDigit = true) ∧ decimal written ≤ 1024 then decimal written
  else standing

theorem requestedLength_le {standing : Nat} (within : standing ≤ 1024) (written : List Char) :
    requestedLength written standing ≤ 1024 := by
  unfold requestedLength
  split
  · next taken => exact taken.2.2
  · exact within

namespace Table

/-- A run of digits that is not too long is read as the number that it writes. -/
theorem digitRun?_of_digits {written : List Char} (filled : written ≠ [])
    (run : ∀ c ∈ written, c.isDigit = true) (short : written.length ≤ digitLimit) :
    digitRun? (String.ofList written) = .ok (some (decimal written)) := by
  have digits : written.all isDigit = true := by
    simpa [isDigit_eq] using run
  simp [digitRun?, filled, digits, Nat.not_lt.mpr short, ofDigits_eq_decimal run]

/-- Any other text is read as no number. -/
theorem digitRun?_of_other {written : List Char}
    (other : ¬ (written ≠ [] ∧ ∀ c ∈ written, c.isDigit = true)) :
    digitRun? (String.ofList written) = .ok none := by
  have stray : (written.isEmpty || !written.all isDigit) = true := by
    by_contra run
    simp only [Bool.or_eq_true, not_or, Bool.not_eq_true', Bool.not_eq_false,
      List.isEmpty_iff, List.all_eq_true, isDigit_eq] at run
    exact other run
  simp [digitRun?, stray]

/-! ## The table -/

variable (world : World)

/-- Behind `rand-` stands the length of the text, or else the configured one counts. -/
theorem produced?_of_written {ident : String} {written : List Char}
    (whole : ident.toList = "rand-".toList ++ written)
    (short : (∀ c ∈ written, c.isDigit = true) → written.length ≤ digitLimit) (standing : Nat) :
    produced? world (some (standing : Int)) ident =
      .ok (some (world.randomText (requestedLength written standing))) := by
  have other : ident ≠ "empty" := by
    rintro rfl
    simp at whole
  rw [produced?, if_neg other, stripLead?_of_append whole]
  dsimp only
  unfold requestedLength
  by_cases run : written ≠ [] ∧ ∀ c ∈ written, c.isDigit = true
  · obtain ⟨filled, digits⟩ := run
    rw [digitRun?_of_digits filled digits (short digits)]
    by_cases within : decimal written ≤ 1024
    · rw [if_pos ⟨filled, digits, within⟩]
      exact if_neg (Nat.not_lt.mpr within)
    · rw [if_neg fun taken => within taken.2.2]
      exact if_pos (Nat.not_le.mp within)
  · rw [digitRun?_of_other run, if_neg fun taken => run ⟨taken.1, taken.2.1⟩]
    rfl

theorem produced?_of_unknown {ident : String} (other : ident ≠ "empty")
    (unlike : ¬ "rand-".toList <+: ident.toList) (randLength : Option Int) :
    produced? world randLength ident = .ok none := by
  rw [produced?, if_neg other, stripLead?_eq_none unlike]

/-- A produced value has letters and digits of ASCII only, and not more than the bound. -/
theorem length_le_of_produced? {standing : Nat} (within : standing ≤ 1024) {ident text : String}
    (produced : produced? world (some (standing : Int)) ident = .ok (some text)) :
    text.length ≤ 1024 ∧ ∀ c ∈ text.toList, c.isAlphanum = true := by
  by_cases like : "rand-".toList <+: ident.toList
  · obtain ⟨written, whole⟩ := like
    have short : (∀ c ∈ written, c.isDigit = true) → written.length ≤ digitLimit := by
      intro run
      by_contra long
      have failed : produced? world (some (standing : Int)) ident =
          .error (.tooManyDigits (some written.length)) := (produced_eq_error_iff world).mpr
        ⟨written, whole.symm, by simpa [isDigit_eq] using run, Nat.not_le.mp long, rfl⟩
      rw [produced] at failed
      cases failed
    rw [produced?_of_written world whole.symm short] at produced
    cases produced
    exact ⟨by rw [World.length_randomText]; exact requestedLength_le within written,
      world.isAlphanum_of_mem_randomText _⟩
  · by_cases empty : ident = "empty"
    · subst empty
      cases produced
      simp
    · rw [produced?_of_unknown world empty like] at produced
      cases produced

end Table

/-! ## Alternatives that ask the table -/

namespace Resolver

open Table Traced

/-- Nothing but remarks is added to what a question does. -/
theorem calls_answer (resolver : Resolver) (referral : Referral) :
    (resolver.answer (some referral)).calls = (resolver.put referral.question).calls := by
  obtain ⟨notes, events⟩ := resolver.exists_notes_of_answer referral
  have silent : (notes.map Event.note).filter Event.isCall = [] := by
    simp [Event.isCall]
  rw [calls, calls, events, List.filter_append, silent, List.append_nil]

variable (world : World) (config : Config)

/-- The built-in tables call nothing: a question is the only call. -/
theorem calls_put_builtIn (asked : Question) :
    ((builtIn world config).put asked).calls = [asked.call] := by
  cases asked with
  | project group ident => exact calls_call rfl rfl
  | plain ns single ident =>
      cases ns with
      | proj => exact (single rfl).elim
      | env | const | val => exact calls_call rfl rfl
      | dir =>
          have governed := governs_directory world config.pkgName (some config.randLength) ident
          exact calls_call rfl governed.quiet

variable {world config}

/-- An answer for which the values are asked is a value of their table. -/
theorem outcome_of_lookup_val {referral : Option Referral} {ident : String}
    (asks : .lookup .val ident ∈ ((builtIn world config).answer referral).calls) :
    ((builtIn world config).answer referral).outcome =
      produced? world (some (config.randLength : Int)) ident := by
  cases referral with
  | none => cases asks
  | some referral =>
      obtain ⟨bodies, asked⟩ := referral
      rw [calls_answer, calls_put_builtIn, List.mem_singleton] at asks
      rw [outcome_answer]
      cases asked with
      | project group other => cases asks
      | plain ns single other =>
          cases asks
          rfl

/--
Over the built-in tables and a configuration that is accepted.  An identifier that is
neither `empty` nor begins with `rand-` has no value, `empty` has the empty text, and
behind `rand-` stands the length of a text of letters and digits of ASCII: the number
that a run of digits writes, if it is within the bound, or else the configured length.
Only a run of more than 4300 digits has no outcome.

Whatever follows a reference, and whatever an alternative comes to in its place, if the
table of values is asked on the way, the value has not more characters than the bound.
-/
theorem produced?_draws (world : World) {value : Value} {config : Config}
    (taken : Config.ofValue value = .ok config) :
    (∀ ident : String,
      (∀ written, ident.toList = "rand-".toList ++ written → (∀ c ∈ written, c.isDigit = true) →
        written.length ≤ 4300) →
      ∃ result, produced? world (some (config.randLength : Int)) ident = .ok result ∧
        (result = none ↔ ident ≠ "empty" ∧ ¬ "rand-".toList <+: ident.toList) ∧
        (ident = "empty" → result = some "") ∧
        ∀ written, ident.toList = "rand-".toList ++ written → ∃ text, result = some text ∧
          text.length = requestedLength written config.randLength ∧
          ∀ c ∈ text.toList, c.isAlphanum = true) ∧
    (∀ segment ident text, .lookup .val ident ∈ ((builtIn world config).follow segment).calls →
      ((builtIn world config).follow segment).outcome = .ok (some text) →
        text.length ≤ 1024 ∧ ∀ c ∈ text.toList, c.isAlphanum = true) ∧
    ∀ place alternative ident text,
      .lookup .val ident ∈ ((builtIn world config).valueAt place alternative).calls →
      ((builtIn world config).valueAt place alternative).outcome = .ok (some text) →
        text.length ≤ 1024 ∧ ∀ c ∈ text.toList, c.isAlphanum = true := by
  have within : config.randLength ≤ 1024 := Config.randLength_le_of_ofValue taken
  refine ⟨?_, ?_, ?_⟩
  · intro ident short
    by_cases like : "rand-".toList <+: ident.toList
    · obtain ⟨written, whole⟩ := like
      have drawn := produced?_of_written world whole.symm (short written whole.symm)
        config.randLength
      refine ⟨_, drawn, ?_, ?_, ?_⟩
      · simp [← whole]
      · rintro rfl
        simp at whole
      · intro other same
        obtain rfl : written = other := List.append_cancel_left (whole.trans same)
        have length := world.length_randomText (requestedLength written config.randLength)
        have drawnFrom :=
          @World.isAlphanum_of_mem_randomText world (requestedLength written config.randLength)
        exact ⟨_, rfl, length, drawnFrom⟩
    · have unwritten : ∀ written, ident.toList ≠ "rand-".toList ++ written := by
        intro written whole
        exact like ⟨written, whole.symm⟩
      by_cases empty : ident = "empty"
      · subst empty
        refine ⟨some "", rfl, ?_, fun _ => rfl, ?_⟩
        · simp
        · intro written whole
          exact (unwritten written whole).elim
      · have unknown : produced? world (some (config.randLength : Int)) ident = .ok none :=
          produced?_of_unknown world empty like _
        refine ⟨none, unknown, ?_, ?_, ?_⟩
        · exact ⟨fun _ => ⟨empty, like⟩, fun _ => rfl⟩
        · intro same
          exact (empty same).elim
        · intro written whole
          exact (unwritten written whole).elim
  · intro segment ident text asks ended
    rw [follow_eq_answer] at asks ended
    have produced : produced? world (some (config.randLength : Int)) ident = .ok (some text) :=
      (outcome_of_lookup_val asks).symm.trans ended
    exact length_le_of_produced? world within produced
  · intro place alternative ident text asks ended
    rw [valueAt_eq_answer] at asks ended
    have produced : produced? world (some (config.randLength : Int)) ident = .ok (some text) :=
      (outcome_of_lookup_val asks).symm.trans ended
    exact length_le_of_produced? world within produced

/-- Leading zeros, the bound and the number behind it, other digits, a sign, and two references. -/
theorem produced?_draws_of_zeros_and_marks :
    let world := World.withHome "linux"
    let config : Config := { Config.default with randLength := 8 }
    Config.ofValue (.map [(.text "rand-length", .int 8)]) = .ok config ∧
      (∀ drawn ∈ [("007", 7), ("1024", 1024), ("1025", 8), ("٣", 8), ("-3", 8), ("", 8)],
        ∃ text, produced? world (some 8) ("rand-" ++ drawn.1) = .ok (some text) ∧
          text.length = drawn.2) ∧
      produced? world (some 8) "rand" = .ok none ∧
      ∃ text, ((builtIn world config).follow "const * val * rand-20").outcome = .ok (some text) ∧
        text.length ≤ 1024 := by
  intro world config
  have taken : Config.ofValue (.map [(.text "rand-length", .int 8)]) = .ok config := by
    rfl
  obtain ⟨values, followed, -⟩ := produced?_draws world taken
  refine ⟨taken, ?_, ?_, ?_⟩
  · rintro ⟨written, length⟩ member
    obtain ⟨few, requested⟩ : written.toList.length ≤ 4 ∧
        requestedLength written.toList 8 = length := by
      have all : ∀ drawn ∈ [("007", 7), ("1024", 1024), ("1025", 8), ("٣", 8), ("-3", 8), ("", 8)],
          drawn.1.toList.length ≤ 4 ∧ requestedLength drawn.1.toList 8 = drawn.2 := by
        simp [requestedLength, decimal, Nat.ofDigits_cons]
      exact all _ member
    have whole : ("rand-" ++ written).toList = "rand-".toList ++ written.toList :=
      String.toList_append
    obtain ⟨_, ok, -, -, drawn⟩ := values ("rand-" ++ written) fun other same _ => by
      obtain rfl := List.append_cancel_left (whole.symm.trans same)
      exact few.trans (by norm_num)
    obtain ⟨text, rfl, long, -⟩ := drawn written.toList whole
    exact ⟨text, ok, long.trans requested⟩
  · obtain ⟨result, ok, missing, -⟩ := values "rand" fun written same _ => by
      have lengths := congrArg List.length same
      simp at lengths
    rw [missing.mpr (by decide)] at ok
    exact ok
  · let reply := (builtIn world config).follow "const * val * rand-20"
    have asks : .lookup .val "rand-20" ∈ reply.calls := by
      decide +kernel
    have present : reply.outcome.toOption.join.isSome = true := by
      decide +kernel
    rcases ended : reply.outcome with _ | _ | text
    · rw [ended] at present
      cases present
    · rw [ended] at present
      cases present
    · exact ⟨text, rfl, (followed _ _ _ asks ended).1⟩

end Resolver

end PathExpr

import PathExpr.Proofs.Resolve.Conduct
import PathExpr.Proofs.Resolve.Element

/-!
# The dispatch of references

A reference is the word of a namespace, stars that may stand behind blanks, and
a rest.  No word of a namespace begins another one, so a text is a reference to
one namespace at most, and its rest is determined.  What the reference names is
written in the rest: the rest itself, or, within a project, what follows the
first colon behind a group.  That is looked up, unless it is a reference again,
which is followed instead; only the name of an environment variable never is.

Each step leaves a suffix of a trimmed text that is shorter than the text.  So
following a reference comes to an end, asks one provider at most, and asks it
for a suffix of what was written.
-/

namespace PathExpr

open PathExpr.Expr PathExpr.Text

/-! ## Suffixes of trimmed texts -/

namespace Text

theorem IsTrimmed.last_of_append {front rest : List Char} (trimmed : IsTrimmed (front ++ rest)) :
    ∀ c ∈ rest.getLast?, isBlank c = false := by
  intro c final
  refine trimmed.last c ?_
  rw [List.getLast?_append, Option.mem_def.mp final]
  rfl

/-- At the end of a trimmed text there is nothing to trim. -/
theorem exists_lead_of_append {front rest : List Char} (trimmed : IsTrimmed (front ++ rest)) :
    ∃ lead, AllBlank lead ∧ rest = lead ++ trimChars rest := by
  rcases exists_blanks rest with ⟨lead, tail, whole, leadBlank, tailBlank⟩
  rcases List.eq_nil_or_concat tail with rfl | ⟨others, c, rfl⟩
  · exact ⟨lead, leadBlank, by simpa using whole⟩
  · have dark : isBlank c = false := by
      refine trimmed.last_of_append c ?_
      rw [whole]
      simp
    rw [tailBlank c (by simp)] at dark
    cases dark

theorem suffix_trimChars {cs rest : List Char} (trimmed : IsTrimmed cs) (behind : rest <:+ cs) :
    trimChars rest <:+ cs := by
  rcases behind with ⟨front, rfl⟩
  rcases exists_lead_of_append trimmed with ⟨lead, -, whole⟩
  exact ⟨front ++ lead, by rw [List.append_assoc, ← whole]⟩

theorem isTrimmed_trim (s : String) : IsTrimmed (trim s).toList := by
  rw [toList_trim]
  exact isTrimmed_trimChars _

end Text

/-! ## Words -/

namespace Namespace

/-- No word of a namespace begins another one. -/
theorem eq_of_words {ns other : Namespace} {rest otherRest : List Char}
    (same : ns.word.toList ++ rest = other.word.toList ++ otherRest) : ns = other := by
  revert same
  cases ns <;> cases other <;> simp [word]

theorem startsWith_word_iff {ns : Namespace} {s : String} :
    startsWith ns.word s = true ↔ ∃ rest, s.toList = ns.word.toList ++ rest := by
  rw [startsWith, Option.isSome_iff_exists]
  simp only [afterLead?_eq_some]

theorem eq_of_startsWith {ns other : Namespace} {s : String}
    (first : startsWith ns.word s = true) (second : startsWith other.word s = true) :
    ns = other := by
  rcases startsWith_word_iff.mp first with ⟨rest, whole⟩
  rcases startsWith_word_iff.mp second with ⟨otherRest, otherWhole⟩
  exact eq_of_words (whole.symm.trans otherWhole)

theorem mem_all (ns : Namespace) : ns ∈ all := by
  cases ns <;> decide

/-- The order in which the namespaces are tried is of no importance. -/
theorem ofLead?_eq_some_iff {s : String} {ns : Namespace} :
    ofLead? s = some ns ↔ startsWith ns.word s = true := by
  have starts : ∀ {other}, ofLead? s = some other → startsWith other.word s = true := by
    intro other found
    simpa using List.find?_some found
  constructor
  · exact starts
  · intro begins
    cases found : ofLead? s with
    | none => exact (List.find?_eq_none.mp found ns (mem_all ns) begins).elim
    | some other => rw [eq_of_startsWith (starts found) begins]

theorem isTrimmed_word (ns : Namespace) : IsTrimmed ns.word.toList := by
  cases ns
  all_goals
    exact ⟨fun c first => Option.some.inj first ▸ rfl, fun c last => Option.some.inj last ▸ rfl⟩

theorem star_not_mem_word (ns : Namespace) : '*' ∉ ns.word.toList := by
  cases ns <;> decide

end Namespace

/-! ## The written form -/

/-- A reference as it is written: the word of its namespace, stars, and a trimmed rest. -/
def WrittenReference (body : String) (ns : Namespace) (rest : String) : Prop :=
  ∃ blanks stars gap,
    body.toList = ns.word.toList ++ blanks ++ List.replicate (stars + 1) '*' ++ gap ++ rest.toList ∧
    AllBlank blanks ∧ AllBlank gap ∧ IsTrimmed rest.toList ∧
    -- All the stars are counted.
    (gap ++ rest.toList).head? ≠ some '*'

/-- What a written reference names; a disabled namespace has nothing to name. -/
inductive Names (config : Config) (body : String) : Target → Prop where
  | env {rest : String} (written : WrittenReference body .env rest) :
      Names config body (.question (.plain .env (by decide) rest))
  | single {ns : Namespace} {rest : String} (single : ns ≠ .proj) (looked : ns ≠ .env)
      (enabled : config.enabled ns = true) (written : WrittenReference body ns rest) :
      Names config body (.of (.plain ns single rest))
  | project {rest : String} {before after : List Char} {mark : Char} {group : ProjectGroup}
      (enabled : config.enabled .proj = true) (written : WrittenReference body .proj rest)
      (whole : rest.toList = before ++ mark :: after) (isMark : isColon mark = true)
      (plain : ∀ c ∈ before, isColon c = false)
      (parsed : ProjectGroup.parse? (trim (String.ofList before)) = some group) :
      Names config body (.of (.project group (trim (String.ofList after))))

theorem startsWith_star_iff {s : String} :
    startsWith "*" s = true ↔ ∃ rest, s.toList = '*' :: rest := by
  rw [startsWith, Option.isSome_iff_exists]
  simp only [afterLead?_eq_some, show "*".toList = ['*'] from rfl, List.singleton_append]

/-- The stars in front of a text, and what follows the last of them. -/
theorem exists_stars (cs : List Char) :
    ∃ behind, '*' :: cs = List.replicate ((cs.takeWhile (· == '*')).length + 1) '*' ++ behind ∧
      ('*' :: cs).dropWhile (· == '*') = behind ∧ behind.head? ≠ some '*' := by
  have stars : cs.takeWhile (· == '*') =
      List.replicate (cs.takeWhile (· == '*')).length '*' := by
    refine List.eq_replicate_of_mem fun c member => ?_
    simpa using List.mem_takeWhile_imp member
  refine ⟨cs.dropWhile (· == '*'), ?_, by simp, ?_⟩
  · rw [List.replicate_succ, List.cons_append, ← stars, List.takeWhile_append_dropWhile]
  · intro star
    have spec := List.head?_dropWhile_not (· == '*') cs
    simp [star] at spec

theorem dropWhile_stars (stars : Nat) {behind : List Char} (clear : behind.head? ≠ some '*') :
    (List.replicate stars '*' ++ behind).dropWhile (· == '*') = behind := by
  rw [List.dropWhile_append_of_pos (by simp)]
  cases behind with
  | nil => rfl
  | cons c rest =>
      have other : c ≠ '*' := by
        simpa using clear
      simp [other]

section Written

variable {body : String}

/-- The rest of a trimmed reference is what stands behind the word, without blanks and stars. -/
theorem writtenReference_iff (trimmed : IsTrimmed body.toList) {ns : Namespace} {rest : String} :
    WrittenReference body ns rest ↔
      startsWith ns.word body = true ∧ referenceIdent? body ns = some rest := by
  constructor
  · rintro ⟨blanks, stars, gap, whole, blank, gapBlank, restTrimmed, clear⟩
    have core : body.toList = ns.word.toList ++
        (blanks ++ (List.replicate (stars + 1) '*' ++ (gap ++ rest.toList))) := by
      simpa only [List.append_assoc] using whole
    have behindTrimmed : IsTrimmed (List.replicate (stars + 1) '*' ++ (gap ++ rest.toList)) := by
      constructor
      · intro c first
        obtain rfl : '*' = c := by
          simpa [List.replicate_succ] using first
        decide
      · rw [core, ← List.append_assoc] at trimmed
        exact trimmed.last_of_append
    have stripped : trimChars (((stripLead? ns.word body).getD body).toList) =
        List.replicate (stars + 1) '*' ++ (gap ++ rest.toList) := by
      rw [stripLead?_of_append core, Option.getD_some, String.toList_ofList,
        trimChars_append_left blank, trimChars_of_isTrimmed behindTrimmed]
    have starred : startsWith "*" (trim ((stripLead? ns.word body).getD body)) = true := by
      rw [startsWith_star_iff, toList_trim, stripped, List.replicate_succ, List.cons_append]
      exact ⟨_, rfl⟩
    refine ⟨Namespace.startsWith_word_iff.mpr ⟨_, core⟩, ?_⟩
    simp only [referenceIdent?, starred, if_true]
    rw [toList_trim, stripped, dropWhile_stars _ clear, trim, String.toList_ofList,
      trimChars_append_left gapBlank, trimChars_of_isTrimmed restTrimmed, String.ofList_toList]
  · rintro ⟨starts, found⟩
    rcases Namespace.startsWith_word_iff.mp starts with ⟨behind, whole⟩
    have stripped : ((stripLead? ns.word body).getD body).toList = behind := by
      rw [stripLead?_of_append whole, Option.getD_some, String.toList_ofList]
    simp only [referenceIdent?] at found
    split at found
    · next starred =>
      obtain rfl := Option.some.inj found
      rcases startsWith_star_iff.mp starred with ⟨more, begins⟩
      rw [begins]
      rw [toList_trim, stripped] at begins
      rcases exists_stars more with ⟨after, split, dropped, clear⟩
      rw [whole] at trimmed
      rcases exists_lead_of_append trimmed with ⟨blanks, blank, around⟩
      have written : behind = blanks ++
          List.replicate ((more.takeWhile (· == '*')).length + 1) '*' ++ after := by
        rw [around, begins, split, List.append_assoc]
      rw [written, ← List.append_assoc] at trimmed
      rcases exists_lead_of_append trimmed with ⟨gap, gapBlank, last⟩
      refine ⟨blanks, (more.takeWhile (· == '*')).length, gap, ?_, blank, gapBlank,
        isTrimmed_trim _, ?_⟩
      · rw [whole, written, toList_trim, String.toList_ofList, dropped]
        simp only [List.append_assoc]
        rw [← last]
      · rw [toList_trim, String.toList_ofList, dropped, ← last]
        exact clear
    · cases found

/-- A text is a reference in one way at most. -/
theorem WrittenReference.unique (trimmed : IsTrimmed body.toList) {ns other : Namespace}
    {rest otherRest : String} (first : WrittenReference body ns rest)
    (second : WrittenReference body other otherRest) : ns = other ∧ rest = otherRest := by
  rcases (writtenReference_iff trimmed).mp first with ⟨starts, found⟩
  rcases (writtenReference_iff trimmed).mp second with ⟨otherStarts, otherFound⟩
  obtain rfl := Namespace.eq_of_startsWith starts otherStarts
  exact ⟨rfl, Option.some.inj (found.symm.trans otherFound)⟩

theorem WrittenReference.suffix {ns : Namespace} {rest : String}
    (written : WrittenReference body ns rest) : rest.toList <:+ body.toList := by
  rcases written with ⟨blanks, stars, gap, whole, -⟩
  exact ⟨_, whole.symm⟩

theorem WrittenReference.isTrimmed {ns : Namespace} {rest : String}
    (written : WrittenReference body ns rest) : IsTrimmed rest.toList := by
  rcases written with ⟨blanks, stars, gap, whole, blank, gapBlank, trimmed, -⟩
  exact trimmed

/-- Every written reference passes the test that precedes following. -/
theorem WrittenReference.startsReference {ns : Namespace} {rest : String}
    (written : WrittenReference body ns rest) : startsReference body = true := by
  rcases written with ⟨blanks, stars, gap, whole, blank, -⟩
  have cutting : body.toList =
      (ns.word.toList ++ blanks) ++ '*' :: (List.replicate stars '*' ++ gap ++ rest.toList) := by
    rw [whole, List.replicate_succ]
    simp
  have absent : '*' ∉ ns.word.toList ++ blanks := by
    simp [ns.star_not_mem_word, not_mem_of_allBlank blank (show isBlank '*' = false by decide)]
  have word : trim (String.ofList (ns.word.toList ++ blanks)) = ns.word := by
    rw [trim, String.toList_ofList, trimChars_append_right _ blank,
      trimChars_of_isTrimmed ns.isTrimmed_word, String.ofList_toList]
  have lead : Namespace.ofLead? ns.word = some ns :=
    Namespace.ofLead?_eq_some_iff.mpr (Namespace.startsWith_word_iff.mpr ⟨[], by simp⟩)
  rw [startsReference_of_append cutting absent, word, lead]
  rfl

/-! ## What is named -/

theorem projectReference?_eq_some_iff {ident rest : String} {group : ProjectGroup} :
    projectReference? ident = some (group, rest) ↔
      ∃ before mark after, ident.toList = before ++ mark :: after ∧ isColon mark = true ∧
        (∀ c ∈ before, isColon c = false) ∧
        ProjectGroup.parse? (trim (String.ofList before)) = some group ∧
        rest = trim (String.ofList after) := by
  constructor
  · intro found
    rcases exists_first_colon ident.toList with plain | ⟨before, mark, after, whole, isMark, plain⟩
    · rw [projectReference?, chunks_of_no_colon plain] at found
      cases found
    · rw [projectReference?, chunks_of_append whole isMark plain] at found
      rcases Option.map_eq_some_iff.mp found with ⟨other, parsed, pair⟩
      rcases Prod.mk.inj pair with ⟨rfl, rfl⟩
      exact ⟨before, mark, after, whole, isMark, plain, parsed, rfl⟩
  · rintro ⟨before, mark, after, whole, isMark, plain, parsed, rfl⟩
    rw [projectReference?, chunks_of_append whole isMark plain]
    simp only [parsed, Option.map_some]

theorem names_iff {config : Config} (trimmed : IsTrimmed body.toList) {target : Target} :
    Names config body target ↔ target? config body = some target := by
  rw [target?_eq_some_iff]
  constructor
  · intro names
    cases names with
    | env written =>
        rcases (writtenReference_iff trimmed).mp written with ⟨starts, found⟩
        exact ⟨.env, _, Namespace.ofLead?_eq_some_iff.mpr starts, found, rfl, rfl⟩
    | @single ns rest single looked enabled written =>
        rcases (writtenReference_iff trimmed).mp written with ⟨starts, found⟩
        refine ⟨ns, rest, Namespace.ofLead?_eq_some_iff.mpr starts, found, enabled, ?_⟩
        cases ns with
        | env => exact (looked rfl).elim
        | proj => exact (single rfl).elim
        | dir | const | val => rfl
    | @project rest before after mark group enabled written whole isMark plain parsed =>
        rcases (writtenReference_iff trimmed).mp written with ⟨starts, found⟩
        refine ⟨.proj, rest, Namespace.ofLead?_eq_some_iff.mpr starts, found, enabled, ?_⟩
        have inner : projectReference? rest = some (group, trim (String.ofList after)) :=
          projectReference?_eq_some_iff.mpr
            ⟨before, mark, after, whole, isMark, plain, parsed, rfl⟩
        rw [namedBy?, inner]
        rfl
  · rintro ⟨ns, rest, lead, found, enabled, named⟩
    have written : WrittenReference body ns rest :=
      (writtenReference_iff trimmed).mpr ⟨Namespace.ofLead?_eq_some_iff.mp lead, found⟩
    cases ns with
    | env =>
        obtain rfl := Option.some.inj named
        exact .env written
    | dir | const | val =>
        obtain rfl := Option.some.inj named
        exact .single (by decide) (by decide) enabled written
    | proj =>
        rcases Option.map_eq_some_iff.mp named with ⟨⟨group, inner⟩, parts, rfl⟩
        rcases projectReference?_eq_some_iff.mp parts with
          ⟨before, mark, after, whole, isMark, plain, parsed, rfl⟩
        exact .project enabled written whole isMark plain parsed

theorem Names.exists_written {config : Config} {target : Target}
    (names : Names config body target) : ∃ ns rest, WrittenReference body ns rest := by
  cases names with
  | env written => exact ⟨.env, _, written⟩
  | single _ _ _ written => exact ⟨_, _, written⟩
  | project _ written => exact ⟨.proj, _, written⟩

/-- What names something has the form that is tested before it is followed. -/
theorem Names.startsReference {config : Config} {target : Target}
    (names : Names config body target) : startsReference body = true := by
  obtain ⟨ns, rest, written⟩ := names.exists_written
  exact written.startsReference

/-- What is named stands at the end of the reference, in its own case. -/
theorem Names.suffix {config : Config} {target : Target} (names : Names config body target) :
    target.text.toList <:+ body.toList := by
  cases names with
  | env written => exact written.suffix
  | single _ _ _ written =>
      rw [Target.text_of]
      exact written.suffix
  | @project rest before after mark group _ written whole =>
      have behind : after <:+ rest.toList := ⟨before ++ [mark], by simp [whole]⟩
      rw [Target.text_of, Question.ident, toList_trim, String.toList_ofList]
      exact (suffix_trimChars written.isTrimmed behind).trans written.suffix

end Written

/-! ## The whole way -/

/-- However many references lead to a question, it asks for the end of the first. -/
theorem suffix_referral? {config : Config} {segment : String} {referral : Referral}
    (leads : referral? config segment = some referral) :
    referral.question.ident.toList <:+ (trim segment).toList := by
  unfold referral? at leads
  fun_induction walk (target? config) length_reference segment generalizing referral with
  | case1 segment nowhere =>
      cases leads
  | case2 segment asked found =>
      cases leads
      exact ((names_iff (isTrimmed_trim segment)).mpr found).suffix
  | case3 segment text found shorter ih =>
      rcases Option.map_eq_some_iff.mp leads with ⟨inner, onward, rfl⟩
      have behind : text.toList <:+ (trim segment).toList :=
        ((names_iff (isTrimmed_trim segment)).mpr found).suffix
      have inside := suffix_trimChars (isTrimmed_trim segment) behind
      rw [← toList_trim] at inside
      exact (ih onward).trans inside

/-- The call that asks a question. -/
def Question.call : Question → Event
  | .plain ns _ ident => .lookup ns ident
  | .project group ident => .project ident group

/-- What a provider answers to a question. -/
def Providers.reply (providers : Providers) : Question → Traced (Option String)
  | .plain .env _ ident => providers.env ident
  | .plain .dir _ ident => providers.dir ident
  | .plain .const _ ident => providers.const ident
  | .plain .val _ ident => providers.val ident
  | .plain .proj single _ => (single rfl).elim
  | .project group ident => providers.proj ident group

namespace Resolver

variable (resolver : Resolver)

theorem put_eq (asked : Question) :
    resolver.put asked =
      (Traced.emit asked.call >>= fun _ => resolver.providers.reply asked) := by
  cases asked with
  | project group ident => rfl
  | plain ns single ident =>
      cases ns with
      | proj => exact (single rfl).elim
      | env | dir | const | val => rfl

/-- On the way back through references nothing but remarks are made. -/
theorem exists_notes_of_answer (referral : Referral) :
    ∃ notes : List Note, (resolver.answer (some referral)).events =
      (resolver.put referral.question).events ++ notes.map .note := by
  rcases referral with ⟨bodies, asked⟩
  simp only [answer]
  generalize resolver.put asked = value
  induction bodies generalizing value with
  | nil => exact ⟨[], by simp⟩
  | cons body rest ih =>
      rw [List.foldl_cons]
      rcases ih (handBack body value) with ⟨notes, whole⟩
      rw [whole]
      cases ended : value.outcome with
      | error fault =>
          rw [handBack, Traced.bind_of_error ended]
          exact ⟨notes, rfl⟩
      | ok text =>
          rw [handBack, Traced.bind_of_ok ended]
          cases text with
          | none => exact ⟨notes, by simp⟩
          | some text =>
              refine ⟨.followed body text :: notes, ?_⟩
              rw [Traced.events_bind_of_ok rfl]
              simp [Traced.remark, Traced.emit]

/-- A reference that leads to a question gets its answer, and remarks are added to it. -/
theorem follow_of_referral? {segment : String} {referral : Referral}
    (leads : referral? resolver.config segment = some referral) :
    (resolver.follow segment).outcome =
        (resolver.providers.reply referral.question).outcome ∧
      ∃ notes : List Note, (resolver.follow segment).events =
        referral.question.call :: (resolver.providers.reply referral.question).events ++
          notes.map .note := by
  have asks : resolver.put referral.question =
      (Traced.emit referral.question.call >>= fun _ =>
        resolver.providers.reply referral.question) :=
    resolver.put_eq referral.question
  obtain ⟨notes, events⟩ := resolver.exists_notes_of_answer referral
  rw [follow_eq_answer, leads]
  constructor
  · rw [outcome_answer, asks]
    rfl
  · refine ⟨notes, ?_⟩
    rw [events, asks, Traced.events_bind_of_ok rfl]
    rfl

/--
How a reference is dispatched.  The trimmed segment is the reference of one
namespace at most, with one rest.  Following it is reaching what it names: that
stands at the end of the trimmed segment and is shorter; a question is put to
its provider, and a reference is followed in turn.  Where nothing is named,
there is no value and nothing is done.

On the whole way one provider is asked at most, one of an enabled namespace, for
a suffix of the trimmed segment; its answer is the value, and all that is added
to it are remarks.  A segment that does not start like a reference leads
nowhere, so the test in front hides nothing.
-/
theorem follow_dispatches (segment : String) :
    (∀ ns other : Namespace, startsWith ns.word (trim segment) = true →
      startsWith other.word (trim segment) = true → ns = other) ∧
    (∀ ns rest other otherRest, WrittenReference (trim segment) ns rest →
      WrittenReference (trim segment) other otherRest → ns = other ∧ rest = otherRest) ∧
    (∀ target, Names resolver.config (trim segment) target →
      target.text.toList <:+ (trim segment).toList ∧
      target.text.length < (trim segment).length ∧
      resolver.follow segment = handBack (trim segment) (resolver.reach target)) ∧
    ((∀ target, ¬ Names resolver.config (trim segment) target) →
      resolver.follow segment = return none) ∧
    (resolver.follow segment = (return none) ∨
      ∃ (asked : Question) (notes : List Note),
        resolver.config.enabled asked.ns = true ∧
        asked.ident.toList <:+ (trim segment).toList ∧
        (∃ target, Names resolver.config (trim segment) target) ∧
        (resolver.follow segment).outcome = (resolver.providers.reply asked).outcome ∧
        (resolver.follow segment).events =
          asked.call :: (resolver.providers.reply asked).events ++ notes.map .note) ∧
    (startsReference segment = false → resolver.follow segment = return none) := by
  let body := trim segment
  let config := resolver.config
  have trimmed : IsTrimmed body.toList := isTrimmed_trim segment
  have oneNamespace : ∀ ns other : Namespace, startsWith ns.word body = true →
      startsWith other.word body = true → ns = other := by
    intro ns other starts otherStarts
    exact Namespace.eq_of_startsWith starts otherStarts
  have oneRest : ∀ ns rest other otherRest, WrittenReference body ns rest →
      WrittenReference body other otherRest → ns = other ∧ rest = otherRest := by
    intro ns rest other otherRest written otherWritten
    exact written.unique trimmed otherWritten
  have reached : ∀ target, Names config body target →
      target.text.toList <:+ body.toList ∧ target.text.length < body.length ∧
      resolver.follow segment = handBack body (resolver.reach target) := by
    intro target names
    have found : target? config body = some target := (names_iff trimmed).mp names
    have handed : resolver.follow segment = handBack body (resolver.reach target) := by
      rw [follow_eq_reach, found]
      rfl
    exact ⟨names.suffix, length_target? found, handed⟩
  have nowhere : (∀ target, ¬ Names config body target) →
      resolver.follow segment = return none := by
    intro unnamed
    have none : target? config body = none := by
      rw [Option.eq_none_iff_forall_ne_some]
      intro target found
      exact unnamed target ((names_iff trimmed).mpr found)
    rw [follow_eq_reach, none]
    simp [reachIfAny, handBack]
  refine ⟨oneNamespace, oneRest, reached, nowhere, ?_, ?_⟩
  · by_cases named : ∃ target, Names config body target
    · cases leads : referral? config segment with
      | none =>
          -- The reference names another one, and somewhere on the way nothing is named.
          left
          rw [follow_eq_answer, leads]
          rfl
      | some referral =>
          right
          have enabled : config.enabled referral.question.ns = true := enabled_of_referral? leads
          have behind : referral.question.ident.toList <:+ body.toList := suffix_referral? leads
          obtain ⟨outcome, notes, events⟩ := resolver.follow_of_referral? leads
          exact ⟨referral.question, notes, enabled, behind, named, outcome, events⟩
    · exact Or.inl (nowhere (not_exists.mp named))
  · intro plain
    apply nowhere
    intro target names
    have starts : startsReference body = true := names.startsReference
    rw [startsReference_trim, plain] at starts
    cases starts

/-- The rest of a reference is a reference in its own case, and a star in a name is no mark. -/
theorem follow_dispatches_through_reference :
    let answer : Lookup := fun _ => return some "/x"
    let resolver : Resolver :=
      ⟨Config.default, ⟨answer, answer, answer, answer, fun _ _ => return some "/x"⟩,
        fun _ => false⟩
    let segment := " dir ** const* A *b "
    Names resolver.config (trim segment) (.reference "const* A *b") ∧
      resolver.follow segment = handBack (trim segment) (resolver.follow "const* A *b") ∧
      (resolver.follow segment).calls = [.lookup .const "A *b"] := by
  intro answer resolver segment
  have named : target? resolver.config (trim segment) = some (.reference "const* A *b") := by
    decide +kernel
  have names := (names_iff (isTrimmed_trim segment)).mpr named
  obtain ⟨-, -, reached, -⟩ := resolver.follow_dispatches segment
  obtain ⟨-, -, handed⟩ := reached _ names
  exact ⟨names, handed, by decide +kernel⟩

end Resolver

end PathExpr

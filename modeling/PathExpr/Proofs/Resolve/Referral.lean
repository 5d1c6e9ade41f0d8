import PathExpr.Proofs.Expr.Tokens
import PathExpr.Proofs.Text.Trim
import PathExpr.Resolver

/-!
# Where references lead

A reference names an identifier in a namespace, and the identifier may be a
reference again.  Which way this goes is written in the text alone: no provider
is asked on the way, and none has a say in it.  Following a reference therefore
comes to one question to one provider, or to none at all, and to a remark for
each reference on the way back.

One step strips a namespace and its stars and keeps the rest as it was written,
so that the identifier a provider is asked for is a part of the reference.
-/

namespace PathExpr

open PathExpr.Expr PathExpr.Text

/-! ## Questions -/

/-- What a provider is asked for; a project is asked within a group. -/
inductive Question where
  | plain (ns : Namespace) (single : ns ≠ .proj) (ident : String)
  | project (group : ProjectGroup) (ident : String)
  deriving DecidableEq

namespace Question

def ns : Question → Namespace
  | plain ns _ _ => ns
  | project _ _ => .proj

def ident : Question → String
  | plain _ _ ident => ident
  | project _ ident => ident

end Question

/-- What a reference names: something to ask for, or another reference. -/
inductive Target where
  | question (asked : Question)
  | reference (text : String)
  deriving DecidableEq

namespace Target

/-- A question, unless it asks for a reference, which is followed instead. -/
def of (question : Question) : Target :=
  if startsReference question.ident then .reference question.ident else .question question

/-- What is asked for or followed. -/
def text : Target → String
  | .question asked => asked.ident
  | .reference text => text

@[simp]
theorem text_of (question : Question) : (of question).text = question.ident := by
  unfold of
  split <;> rfl

end Target

/-- What an identifier of a namespace stands for in a reference. -/
def namedBy? : Namespace → String → Option Target
  | .env, ident => some (.question (.plain .env (by decide) ident))
  | .dir, ident => some (.of (.plain .dir (by decide) ident))
  | .const, ident => some (.of (.plain .const (by decide) ident))
  | .val, ident => some (.of (.plain .val (by decide) ident))
  | .proj, ident =>
      (projectReference? ident).map fun parts => .of (.project parts.1 parts.2)

/-- What a trimmed reference names; a disabled namespace has nothing to name. -/
def target? (config : Config) (body : String) : Option Target :=
  (Namespace.ofLead? body).bind fun ns =>
    (referenceIdent? body ns).bind fun ident =>
      if config.enabled ns then namedBy? ns ident else none

/-! ## One step -/

theorem infix_referenceIdent? {segment ident : String} {ns : Namespace}
    (found : referenceIdent? segment ns = some ident) :
    ident.toList <:+: segment.toList := by
  have stripped : ((stripLead? ns.word segment).getD segment).toList <:+: segment.toList := by
    unfold stripLead?
    cases lead : afterLead? ns.word.toList segment.toList with
    | none => simp
    | some rest =>
        have whole := afterLead?_eq_some.mp lead
        exact ⟨ns.word.toList, [], by simp [whole]⟩
  simp only [referenceIdent?] at found
  split at found
  · obtain rfl := Option.some.inj found
    refine (infix_trim _).trans ?_
    rw [String.toList_ofList]
    exact (List.dropWhile_suffix _).isInfix.trans ((infix_trim _).trans stripped)
  · cases found

theorem infix_of_mem_chunks {s part : String} (member : part ∈ chunks s) :
    part.toList <:+: s.toList := by
  rcases exists_chunks (List.ne_nil_of_mem member) with ⟨tag, rest, parts, parted⟩
  rcases parted.written with ⟨mark, lead, front, back, tail, -, -, -, -, -, whole⟩
  rw [parts] at member
  rcases List.mem_pair.mp member with rfl | rfl
  · exact ⟨lead, front ++ mark :: (back ++ rest.toList ++ tail), by simp [whole]⟩
  · exact ⟨lead ++ tag.toList ++ front ++ mark :: back, tail, by simp [whole]⟩

theorem infix_projectReference? {ident rest : String} {group : ProjectGroup}
    (found : projectReference? ident = some (group, rest)) :
    rest.toList <:+: ident.toList := by
  unfold projectReference? at found
  split at found
  · next tag tail parts =>
    rcases Option.map_eq_some_iff.mp found with ⟨_, _, pair⟩
    rcases Prod.mk.inj pair with ⟨-, rfl⟩
    exact infix_of_mem_chunks (by simp [parts])
  · cases found

/-- What an identifier stands for stands in the identifier, as it was written. -/
theorem infix_namedBy? {ns : Namespace} {ident : String} {target : Target}
    (named : namedBy? ns ident = some target) : target.text.toList <:+: ident.toList := by
  cases ns with
  | env =>
      obtain rfl := Option.some.inj named
      exact List.infix_refl ident.toList
  | dir | const | val =>
      obtain rfl := Option.some.inj named
      rw [Target.text_of]
      exact List.infix_refl _
  | proj =>
      rcases Option.map_eq_some_iff.mp named with ⟨⟨group, rest⟩, found, rfl⟩
      rw [Target.text_of]
      exact infix_projectReference? found

theorem length_namedBy? {ns : Namespace} {ident : String} {target : Target}
    (named : namedBy? ns ident = some target) : target.text.length ≤ ident.length := by
  have inside := (infix_namedBy? named).length_le
  simpa only [String.length_toList] using inside

/-- A reference names a namespace that is enabled, and something of it. -/
theorem target?_eq_some_iff {config : Config} {body : String} {target : Target} :
    target? config body = some target ↔
      ∃ ns ident, Namespace.ofLead? body = some ns ∧ referenceIdent? body ns = some ident ∧
        config.enabled ns = true ∧ namedBy? ns ident = some target := by
  simp only [target?, Option.bind_eq_some_iff, Option.ite_none_right_eq_some]
  constructor
  · rintro ⟨ns, lead, ident, found, enabled, named⟩
    exact ⟨ns, ident, lead, found, enabled, named⟩
  · rintro ⟨ns, ident, lead, found, enabled, named⟩
    exact ⟨ns, lead, ident, found, enabled, named⟩

theorem infix_target? {config : Config} {body : String} {target : Target}
    (found : target? config body = some target) : target.text.toList <:+: body.toList := by
  rcases target?_eq_some_iff.mp found with ⟨ns, ident, -, inside, -, named⟩
  exact (infix_namedBy? named).trans (infix_referenceIdent? inside)

/-- A reference is longer than what it names, by its mark and its namespace at least. -/
theorem length_target? {config : Config} {body : String} {target : Target}
    (found : target? config body = some target) : target.text.length < body.length := by
  rcases target?_eq_some_iff.mp found with ⟨ns, ident, -, inside, -, named⟩
  exact Nat.lt_of_le_of_lt (length_namedBy? named) (length_referenceIdent? inside)

/-! ## The whole way -/

/-- A question, with the references that lead to it, the last one first. -/
structure Referral where
  bodies : List String
  question : Question
  deriving DecidableEq

theorem length_reference {config : Config} {body text : String}
    (found : target? config body = some (.reference text)) : text.length < body.length := by
  have shorter := length_target? found
  exact shorter

/-- Goes from a reference to what it names, as long as that is a shorter reference. -/
def walk (step : String → Option Target)
    (shorter : ∀ {body text}, step body = some (.reference text) → text.length < body.length)
    (segment : String) : Option Referral :=
  match found : step (trim segment) with
  | none => none
  | some (.question asked) => some ⟨[trim segment], asked⟩
  | some (.reference text) =>
      have := Nat.lt_of_lt_of_le (shorter found) (length_trim_le segment)
      (walk step shorter text).map fun referral =>
        { referral with bodies := referral.bodies ++ [trim segment] }
termination_by segment.length

/-- Where a reference leads in the end, if anywhere. -/
def referral? (config : Config) (segment : String) : Option Referral :=
  walk (target? config) length_reference segment

theorem referral?_of_question {config : Config} {segment : String} {asked : Question}
    (found : target? config (trim segment) = some (.question asked)) :
    referral? config segment = some ⟨[trim segment], asked⟩ := by
  rw [referral?, walk]
  split
  · next none =>
    rw [none] at found
    cases found
  · next other same =>
    rw [same] at found
    cases found
    rfl
  · next other =>
    rw [other] at found
    cases found

/-- What is asked for in the end stands in the reference as it was written. -/
theorem infix_referral? {config : Config} {segment : String} {referral : Referral}
    (leads : referral? config segment = some referral) :
    referral.question.ident.toList <:+: segment.toList := by
  unfold referral? at leads
  fun_induction walk (target? config) length_reference segment generalizing referral with
  | case1 segment nowhere =>
      cases leads
  | case2 segment asked found =>
      cases leads
      exact (infix_target? found).trans (infix_trim segment)
  | case3 segment text found shorter ih =>
      rcases Option.map_eq_some_iff.mp leads with ⟨inner, onward, rfl⟩
      have inside := (infix_target? found).trans (infix_trim segment)
      exact (ih onward).trans inside

/-! ## Following is asking -/

namespace Resolver

variable (resolver : Resolver)

/-- Asks a question. -/
def put : Question → Traced (Option String)
  | .plain ns _ ident => resolver.ask ns ident
  | .project group ident => resolver.askProject ident group

/-- Hands a value back through a reference, with a remark on it. -/
def handBack (body : String) (answer : Traced (Option String)) : Traced (Option String) := do
  match ← answer with
  | none => return none
  | some text =>
    Traced.remark (.followed body text)
    return some text

/-- What a reference gets that leads to a question, or nowhere. -/
def answer : Option Referral → Traced (Option String)
  | none => return none
  | some referral =>
      referral.bodies.foldl (fun answer body => handBack body answer)
        (resolver.put referral.question)

/-- Handing a value back leaves a remark and nothing else. -/
theorem outcome_handBack (body : String) (answer : Traced (Option String)) :
    (handBack body answer).outcome = answer.outcome := by
  rcases answer with ⟨events, _ | _ | text⟩
  · rfl
  · rfl
  · rfl

theorem outcome_answer (referral : Referral) :
    (resolver.answer (some referral)).outcome = (resolver.put referral.question).outcome := by
  rcases referral with ⟨bodies, asked⟩
  simp only [answer]
  generalize resolver.put asked = value
  induction bodies generalizing value with
  | nil => rfl
  | cons body rest ih =>
      rw [List.foldl_cons, ih, outcome_handBack]

/-- The value of a target. -/
def reach : Target → Traced (Option String)
  | .question asked => resolver.put asked
  | .reference text => resolver.follow text

/-- A question that asks for a reference is not put, the reference is followed. -/
theorem reach_of (question : Question) :
    resolver.reach (.of question) =
      if startsReference question.ident then resolver.follow question.ident
      else resolver.put question := by
  unfold Target.of
  split <;> simp only [reach]

/-- A lookup in a namespace without groups reaches the target of its question. -/
theorem lookup_eq_reach {ns : Namespace} (single : ns ≠ .proj) (ident : String) :
    resolver.lookup ns ident = resolver.reach (.of (.plain ns single ident)) := by
  rw [reach_of, lookup]
  rfl

theorem lookupProject_eq_reach (group : ProjectGroup) (ident : String) :
    resolver.lookupProject ident group = resolver.reach (.of (.project group ident)) := by
  rw [reach_of, lookupProject]
  rfl

/-- The value of a target that a text may have. -/
def reachIfAny : Option Target → Traced (Option String)
  | none => return none
  | some target => resolver.reach target

/-- Entering a namespace with an identifier reaches what the identifier stands for. -/
theorem enterWith_eq (ns : Namespace) (ident : String) :
    resolver.enterWith ns ident (fun rest _ => resolver.follow rest) =
      resolver.reachIfAny (namedBy? ns ident) := by
  cases ns with
  | env => rfl
  | dir | const | val =>
      simp only [enterWith, namedBy?, reachIfAny, reach_of]
      rfl
  | proj =>
      simp only [enterWith, namedBy?]
      split
      · next none =>
        rw [none]
        rfl
      · next group rest found =>
        simp only [found, Option.map_some, reachIfAny, reach_of]
        rfl

theorem referenceWith_eq {segment : String} {ns : Namespace}
    (lead : Namespace.ofLead? segment = some ns) :
    resolver.referenceWith segment ns (fun rest _ => resolver.follow rest) =
      resolver.reachIfAny (target? resolver.config segment) := by
  have named : target? resolver.config segment = (referenceIdent? segment ns).bind fun ident =>
      if resolver.config.enabled ns then namedBy? ns ident else none := by
    rw [target?, lead, Option.bind_some]
  unfold referenceWith
  split
  · next none =>
    rw [none, Option.bind_none] at named
    rw [named]
    rfl
  · next ident found =>
    rw [found, Option.bind_some] at named
    rw [named]
    cases resolver.config.enabled ns with
    | true => exact resolver.enterWith_eq ns ident
    | false => rfl

/-- A reference has the value of its target, and none when there is no target. -/
theorem follow_eq_reach (segment : String) :
    resolver.follow segment =
      handBack (trim segment) (resolver.reachIfAny (target? resolver.config (trim segment))) := by
  rw [follow]
  cases lead : Namespace.ofLead? (trim segment) with
  | none =>
      simp [target?, lead, reachIfAny, handBack]
  | some ns =>
      simp only [resolver.referenceWith_eq lead]
      rfl

/-- Following a reference is asking what it leads to. -/
theorem follow_eq_answer (segment : String) :
    resolver.follow segment = resolver.answer (referral? resolver.config segment) := by
  unfold referral?
  fun_induction walk (target? resolver.config) length_reference segment with
  | case1 segment nowhere =>
      rw [follow_eq_reach, nowhere]
      simp [reachIfAny, handBack, answer]
  | case2 segment asked found =>
      rw [follow_eq_reach, found]
      rfl
  | case3 segment text found shorter ih =>
      rw [follow_eq_reach, found]
      simp only [reachIfAny, reach, ih]
      cases walk (target? resolver.config) length_reference text with
      | none => simp [answer, handBack]
      | some referral => simp [answer]

end Resolver

end PathExpr

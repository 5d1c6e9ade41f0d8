import PathExpr.Project.Group
import PathExpr.Namespace
import PathExpr.Fault

/-!
# Traced computations

A resolution looks identifiers up, asks whether paths exist, and remarks on what
it does.  A traced computation keeps all of that, in order, next to its outcome,
so that the order and the number of the calls are part of what it means.
-/

namespace PathExpr

open PathExpr.Text

/-- A remark made while resolving. -/
inductive Note where
  | missing (path : String)
  | malformedGroup (chunk : String)
  | followed (segment value : String)
  | resolved (expression : String) (value : Option String)
  | unresolved (element : String)
  | literal (element : String)
  | notWritable (path : String)
  deriving Repr, DecidableEq

/-- The wording of a remark. -/
def Note.message : Note → String
  | .missing path => "'" ++ path ++ "' does not exist on disk, trying the next alternative"
  | .malformedGroup chunk => "Malformed project group in " ++ quoted chunk
  | .followed segment value => "remix " ++ quoted segment ++ " -> " ++ quoted value
  | .resolved expression value =>
    quoted expression ++ " -> " ++ (value.map quoted).getD "None"
  | .unresolved element => "Unresolved path component " ++ quoted element
  | .literal element => "Treating " ++ quoted element ++ " as a literal path component"
  | .notWritable path => path ++ " is not writable, falling back to the cache directory"

/-- Something that a resolution does. -/
inductive Event where
  /-- An identifier is looked up in a namespace. -/
  | lookup (ns : Namespace) (ident : String)
  /-- An identifier is looked up in a project. -/
  | project (ident : String) (group : ProjectGroup)
  /-- A reference to another namespace is handed on. -/
  | reference (segment : String)
  /-- The existence of a path is asked for. -/
  | probe (path : String)
  /-- A remark is made. -/
  | note (remark : Note)
  deriving Repr, DecidableEq

/-- Whether the event is more than a remark. -/
def Event.isCall : Event → Bool
  | .note _ => false
  | _ => true

/-- An outcome with everything that was done on the way to it. -/
@[ext]
structure Traced (α : Type) where
  events : List Event
  outcome : Except Fault α

namespace Traced

variable {α β : Type}

/-- A value without any event. -/
protected def pure (value : α) : Traced α :=
  ⟨[], .ok value⟩

/-- One computation after another; a fault ends both. -/
protected def bind (first : Traced α) (next : α → Traced β) : Traced β :=
  match first.outcome with
  | .error fault => ⟨first.events, .error fault⟩
  | .ok value => ⟨first.events ++ (next value).events, (next value).outcome⟩

instance : Monad Traced where
  pure := Traced.pure
  bind := Traced.bind

theorem id_map (x : Traced α) : id <$> x = x := by
  rcases x with ⟨events, _ | value⟩ <;> simp [Functor.map, Traced.bind, Traced.pure]

theorem pure_bind (value : α) (next : α → Traced β) : (pure value >>= next) = next value := by
  simp [Bind.bind, Pure.pure, Traced.bind, Traced.pure]

theorem bind_assoc {γ : Type} (x : Traced α) (f : α → Traced β) (g : β → Traced γ) :
    x >>= f >>= g = x >>= fun value => f value >>= g := by
  rcases x with ⟨events, _ | value⟩
  · rfl
  · simp only [Bind.bind, Traced.bind]
    cases (f value).outcome <;> simp

instance : LawfulMonad Traced :=
  LawfulMonad.mk' Traced id_map pure_bind bind_assoc

@[simp]
theorem events_pure (value : α) : (pure value : Traced α).events = [] := rfl

@[simp]
theorem outcome_pure (value : α) : (pure value : Traced α).outcome = .ok value := rfl

theorem outcome_bind (first : Traced α) (next : α → Traced β) :
    (first >>= next).outcome = (do (next (← first.outcome)).outcome) := by
  rcases first with ⟨events, _ | value⟩ <;> rfl

theorem events_bind_of_ok {first : Traced α} {value : α} (h : first.outcome = .ok value)
    (next : α → Traced β) : (first >>= next).events = first.events ++ (next value).events := by
  simp [Bind.bind, Traced.bind, h]

theorem bind_of_ok {first : Traced α} {value : α} (h : first.outcome = .ok value)
    (next : α → Traced β) :
    first >>= next = ⟨first.events ++ (next value).events, (next value).outcome⟩ := by
  simp [Bind.bind, Traced.bind, h]

theorem bind_of_error {first : Traced α} {fault : Fault} (h : first.outcome = .error fault)
    (next : α → Traced β) : first >>= next = ⟨first.events, .error fault⟩ := by
  simp [Bind.bind, Traced.bind, h]

@[simp]
theorem map_ok (f : α → β) (events : List Event) (value : α) :
    f <$> (⟨events, .ok value⟩ : Traced α) = ⟨events, .ok (f value)⟩ := by
  simp [← bind_pure_comp, bind_of_ok]

/-- A single event. -/
def emit (event : Event) : Traced Unit :=
  ⟨[event], .ok ()⟩

/-- An outcome without any event. -/
def ofExcept (outcome : Except Fault α) : Traced α :=
  ⟨[], outcome⟩

/-- A remark. -/
def remark (note : Note) : Traced Unit :=
  emit (.note note)

/-- The lookups and probes, in order. -/
def calls (computation : Traced α) : List Event :=
  computation.events.filter Event.isCall

/-- The remarks, in order. -/
def notes (computation : Traced α) : List Note :=
  computation.events.filterMap fun
    | .note remark => some remark
    | _ => none

end Traced

end PathExpr

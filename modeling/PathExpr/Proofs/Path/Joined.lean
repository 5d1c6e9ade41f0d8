import PathExpr.Path

/-!
# Texts joined to a path

Joining texts one after the other below the empty path comes to this: of the
texts that have a root the last one counts, it gives the path its root, and the
components are those of this text and of all texts behind it.  Where no text has
a root the path has none, and all texts give their components.
-/

namespace PathExpr.Path

/-- The components of a text read as a path. -/
def components (s : String) : List String :=
  (Text.split "/" s).filter isComponent

/-- The path that texts make up. -/
inductive MadeOf : List String → Path → Prop where
  /-- No text has a root. -/
  | relative {values : List String}
      (plain : ∀ value ∈ values, (ofText value).isAbsolute = false) :
      MadeOf values ⟨.relative, values.flatMap components⟩
  /-- The last text with a root replaces all texts before it. -/
  | absolute {before after : List String} {last : String}
      (rooted : (ofText last).isAbsolute = true)
      (plain : ∀ value ∈ after, (ofText value).isAbsolute = false) :
      MadeOf (before ++ last :: after)
        ⟨Root.ofChars last.toList, (last :: after).flatMap components⟩

/-! ## One text -/

theorem isAbsolute_eq_false_iff {p : Path} : p.isAbsolute = false ↔ p.root = .relative := by
  simp [isAbsolute]

theorem child_of_relative (p : Path) {s : String} (plain : (ofText s).isAbsolute = false) :
    p.child s = ⟨p.root, p.parts ++ components s⟩ := by
  rw [child, append_def, if_pos (isAbsolute_eq_false_iff.mp plain)]
  rfl

/-- A path with a root replaces what it is joined to. -/
theorem append_of_absolute (p : Path) {q : Path} (rooted : q.isAbsolute = true) : p ++ q = q := by
  have different : q.root ≠ .relative := by
    simpa [isAbsolute] using rooted
  rw [append_def, if_neg different]

theorem child_of_absolute (p : Path) {s : String} (rooted : (ofText s).isAbsolute = true) :
    p.child s = ofText s :=
  append_of_absolute p rooted

theorem append_child (p q : Path) (s : String) : p ++ q.child s = (p ++ q).child s :=
  (append_assoc p q (ofText s)).symm

/-! ## Texts in a row -/

@[simp]
theorem children_nil (p : Path) : p.children [] = p := rfl

@[simp]
theorem children_cons (p : Path) (value : String) (values : List String) :
    p.children (value :: values) = (p.child value).children values := rfl

theorem children_append (p : Path) (before after : List String) :
    p.children (before ++ after) = (p.children before).children after :=
  List.foldl_append

/-- Texts without a root add their components. -/
theorem children_of_relative (p : Path) {values : List String}
    (plain : ∀ value ∈ values, (ofText value).isAbsolute = false) :
    p.children values = ⟨p.root, p.parts ++ values.flatMap components⟩ := by
  induction values generalizing p with
  | nil => simp
  | cons value rest ih =>
      rw [children_cons, child_of_relative p (plain value List.mem_cons_self),
        ih _ fun other member => plain other (List.mem_cons_of_mem _ member)]
      simp

/-- Of texts with a root there is a last one. -/
theorem exists_last_absolute {values : List String}
    (some_rooted : ¬ ∀ value ∈ values, (ofText value).isAbsolute = false) :
    ∃ before last after, values = before ++ last :: after ∧ (ofText last).isAbsolute = true ∧
      ∀ value ∈ after, (ofText value).isAbsolute = false := by
  induction values with
  | nil => simp at some_rooted
  | cons value rest ih =>
      by_cases plain : ∀ other ∈ rest, (ofText other).isAbsolute = false
      · have rooted : (ofText value).isAbsolute = true := by
          refine eq_true_of_ne_false fun unrooted => some_rooted ?_
          exact List.forall_mem_cons.mpr ⟨unrooted, plain⟩
        exact ⟨[], value, rest, rfl, rooted, plain⟩
      · obtain ⟨before, last, after, rfl, rooted, behind⟩ := ih plain
        exact ⟨value :: before, last, after, rfl, rooted, behind⟩

/-- What texts make up is what joining them gives. -/
theorem madeOf_iff {values : List String} {path : Path} :
    MadeOf values path ↔ path = empty.children values := by
  have absolute : ∀ {before after : List String} {last : String},
      (ofText last).isAbsolute = true → (∀ value ∈ after, (ofText value).isAbsolute = false) →
        empty.children (before ++ last :: after) =
          ⟨Root.ofChars last.toList, (last :: after).flatMap components⟩ := by
    intro before after last rooted plain
    rw [children_append, children_cons, child_of_absolute _ rooted, children_of_relative _ plain,
      List.flatMap_cons]
    rfl
  constructor
  · intro made
    cases made with
    | relative plain =>
        rw [children_of_relative _ plain]
        rfl
    | absolute rooted plain => rw [absolute rooted plain]
  · rintro rfl
    by_cases plain : ∀ value ∈ values, (ofText value).isAbsolute = false
    · rw [children_of_relative _ plain]
      exact .relative plain
    · obtain ⟨before, last, after, rfl, rooted, behind⟩ := exists_last_absolute plain
      rw [absolute rooted behind]
      exact .absolute rooted behind

end PathExpr.Path

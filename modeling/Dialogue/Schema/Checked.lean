import Dialogue.Schema.Problem

/-!
# Values that have been checked

A check ends with a value, or with all the problems that were found. The parts of a record are
checked apart from each other, and the problems of all parts are kept, in the order of the
parts.

* `Checked.map`, `Checked.ap`: a function applied to checked parts;
* `Checked.under`: the same check, one step further down in the document.
-/

namespace Dialogue

/-- A value, or the problems that stand against it, of which there is at least one. -/
inductive Checked (α : Type)
  | valid (value : α)
  | invalid (first : Problem) (more : List Problem)
  deriving DecidableEq

namespace Checked

variable {α β : Type}

/-- The problems of a check, none if it succeeded. -/
def problems : Checked α → List Problem
  | valid _ => []
  | invalid p ps => p :: ps

/-- The value of a check, if it succeeded. -/
def value? : Checked α → Option α
  | valid a => some a
  | invalid _ _ => none

/-- A check that fails here with one fault. -/
def fail (f : Fault) : Checked α := invalid ⟨[], f⟩ []

/-- Apply a function to a checked value. -/
def map (f : α → β) : Checked α → Checked β
  | valid a => valid (f a)
  | invalid p ps => invalid p ps

/-- Apply a checked function to a checked value, keeping the problems of both. -/
def ap : Checked (α → β) → Checked α → Checked β
  | valid f, x => x.map f
  | invalid p ps, x => invalid p (ps ++ x.problems)

instance : Functor Checked := ⟨map, fun a => map fun _ => a⟩

instance : Pure Checked := ⟨valid⟩

instance : Seq Checked := ⟨fun f x => f.ap (x ())⟩

/-- The path of a problem, one step further down. -/
def lower (s : Step) (p : Problem) : Problem := ⟨s :: p.path, p.fault⟩

/-- A check of the value one step further down. -/
def under (s : Step) : Checked α → Checked α
  | valid a => valid a
  | invalid p ps => invalid (lower s p) (ps.map (lower s))

/-- A value that must also pass a rule. -/
def refine (rule : α → Option Fault) : Checked α → Checked α
  | valid a =>
    match rule a with
    | some f => fail f
    | none => valid a
  | invalid p ps => invalid p ps

@[simp] theorem map_eq (f : α → β) (x : Checked α) : f <$> x = x.map f := rfl

@[simp] theorem pure_eq (a : α) : (pure a : Checked α) = valid a := rfl

@[simp] theorem seq_eq (f : Checked (α → β)) (x : Checked α) : f <*> x = f.ap x := rfl

@[simp] theorem problems_map (f : α → β) (x : Checked α) : (x.map f).problems = x.problems := by
  cases x <;> rfl

@[simp] theorem problems_ap (f : Checked (α → β)) (x : Checked α) :
    (f.ap x).problems = f.problems ++ x.problems := by
  cases f <;> cases x <;> simp [ap, map, problems]

@[simp] theorem problems_under (s : Step) (x : Checked α) :
    (x.under s).problems = x.problems.map (lower s) := by
  cases x <;> rfl

end Checked

end Dialogue

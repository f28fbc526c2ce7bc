import Plateau.Check.Fault

namespace Plateau

inductive Check (α : Type) where
  | valid (a : α)
  | invalid (faults : List Fault)
  deriving Repr

namespace Check

variable {α β : Type}

def map (f : α → β) : Check α → Check β
  | valid a => valid (f a)
  | invalid fs => invalid fs

/-- Both checks are made; the faults of both are kept. -/
def ap : Check (α → β) → Check α → Check β
  | valid f, valid a => valid (f a)
  | valid _, invalid gs => invalid gs
  | invalid fs, valid _ => invalid fs
  | invalid fs, invalid gs => invalid (fs ++ gs)

instance : Applicative Check where
  pure := valid
  map := map
  seq f a := ap f (a ())

def fault (p : Problem) : Check α :=
  invalid [⟨[], p⟩]

def within (step : String) : Check α → Check α
  | valid a => valid a
  | invalid fs => invalid (fs.map (Fault.within step))

/-- A further check, made only on a valid value. -/
def andThen (c : Check α) (f : α → Check β) : Check β :=
  match c with
  | valid a => f a
  | invalid fs => invalid fs

def toExcept : Check α → Except (List Fault) α
  | valid a => .ok a
  | invalid fs => .error (fs.mergeSort Fault.before)

@[simp] theorem map_valid (f : α → β) (a : α) : f <$> valid a = valid (f a) := rfl

@[simp] theorem valid_seq (f : α → β) (c : Check α) : valid f <*> c = f <$> c := by
  cases c <;> rfl

@[simp] theorem within_valid (step : String) (a : α) : within step (valid a) = valid a := rfl

end Check

end Plateau

import Plateau.Number.Numeral

namespace Plateau

inductive Axis where
  | x
  | y
  deriving DecidableEq, Repr

def Axis.name : Axis → String
  | .x => "x"
  | .y => "y"

@[ext] structure Point where
  x : Int
  y : Int
  deriving DecidableEq, Repr

/-- The rectangle from `(0, 0)` to `(upperX, upperY)`, edges included. -/
@[ext] structure Surface where
  upperX : Nat
  upperY : Nat
  deriving DecidableEq, Repr

structure NegativeBound where
  axis : Axis
  value : Int
  deriving DecidableEq, Repr

namespace Surface

def lower : Int := 0

/-- The surface up to a corner; the x bound is checked first. -/
def create (upperX upperY : Int) : Except NegativeBound Surface :=
  if upperX < lower then .error ⟨.x, upperX⟩
  else if upperY < lower then .error ⟨.y, upperY⟩
  else .ok ⟨upperX.toNat, upperY.toNat⟩

def Contains (s : Surface) (p : Point) : Prop :=
  lower ≤ p.x ∧ p.x ≤ s.upperX ∧ lower ≤ p.y ∧ p.y ≤ s.upperY

instance (s : Surface) (p : Point) : Decidable (s.Contains p) :=
  inferInstanceAs (Decidable (_ ∧ _))

def render (s : Surface) : Except Numeral.Overflow String := do
  let x ← Numeral.write s.upperX
  let y ← Numeral.write s.upperY
  return s!"Surface | lower-bounds [{lower},{lower}] - upper-bounds [{x},{y}]"

end Surface

def NegativeBound.message (b : NegativeBound) : Except Numeral.Overflow String := do
  let value ← Numeral.write b.value
  return s!"the upper bound {value} for coordinate {b.axis.name} " ++
    s!"must be greater than or equal to {Surface.lower}"

end Plateau

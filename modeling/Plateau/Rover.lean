import Plateau.Surface
import Plateau.Travel

namespace Plateau

/-- `id` is the index of the rover's pair of lines and is only used to attribute errors. -/
@[ext] structure Rover where
  id : Int
  point : Point
  heading : Heading
  deriving DecidableEq, Repr

namespace Rover

def apply (r : Rover) (t : Transition) : Rover :=
  { r with point := ⟨r.point.x + t.dx, r.point.y + t.dy⟩, heading := t.heading }

def follow (r : Rover) (c : Command) : Rover :=
  r.apply (travel r.heading c)

def render (r : Rover) : Except Numeral.Overflow String := do
  let x ← Numeral.write r.point.x
  let y ← Numeral.write r.point.y
  return s!"{x} {y} {r.heading.letter}"

@[simp] theorem id_apply (r : Rover) (t : Transition) : (r.apply t).id = r.id := rfl

@[simp] theorem id_follow (r : Rover) (c : Command) : (r.follow c).id = r.id := rfl

end Rover

end Plateau

import Plateau.Rover
import Plateau.RunError
import Plateau.Text.Blank

namespace Plateau

open Text (trim words lines)

structure Instruction where
  placement : List Char
  commands : List Char
  deriving DecidableEq, Repr

namespace Instructions

/-- The lines of an instruction set, after trimming the whole text. -/
def split (text : List Char) : List (List Char) :=
  lines (trim text)

def checkShape (ls : List (List Char)) : Except RunError Unit :=
  if ls.length < minimumLines then .error (.tooFewLines ls.length)
  else if ls.length % 2 = 0 then .error (.evenLineCount ls.length)
  else .ok ()

/-- Every second line with the line after it, under the id of its rover. -/
def numbered (ls : List (List Char)) : List (Nat × Instruction) :=
  (List.range (ls.length / 2)).map fun k =>
    (k, ⟨(ls[2 * k]?).getD [], (ls[2 * k + 1]?).getD []⟩)

def pairs (ls : List (List Char)) : List Instruction :=
  (numbered ls).map (·.2)

@[simp] theorem pairs_nil : pairs [] = [] := rfl

@[simp] theorem pairs_singleton (l : List Char) : pairs [l] = [] := by
  simp [pairs, numbered]

@[simp] theorem pairs_cons_cons (placement commands : List Char) (rest : List (List Char)) :
    pairs (placement :: commands :: rest) = ⟨placement, commands⟩ :: pairs rest := by
  have hhalf : (placement :: commands :: rest).length / 2 = rest.length / 2 + 1 := by
    rw [List.length_cons, List.length_cons]
    omega
  rw [pairs, numbered, hhalf, List.range_succ_eq_map]
  simp [pairs, numbered, Function.comp_def, Nat.mul_add]

theorem pairs_induction {motive : List (List Char) → Prop} (nil : motive [])
    (single : ∀ l, motive [l])
    (pair : ∀ placement commands rest, motive rest → motive (placement :: commands :: rest)) :
    ∀ ls, motive ls
  | [] => nil
  | [l] => single l
  | placement :: commands :: rest =>
    pair placement commands rest (pairs_induction nil single pair rest)

end Instructions

def readCoordinate (failure : RunError) (token : List Char) : Except RunError Int :=
  (Numeral.read token).mapError fun _ => failure

namespace Surface

def ofLine (line : List Char) : Except RunError Surface :=
  match words line with
  | [xToken, yToken] => do
    let x ← readCoordinate (.surfaceBoundaryParse Axis.x.name (String.ofList xToken)) xToken
    let y ← readCoordinate (.surfaceBoundaryParse Axis.y.name (String.ofList yToken)) yToken
    (create x y).mapError fun b => .surfaceBoundsInvalid b.axis.name b.value lower
  | tokens => .error (.surfaceDimensionMismatch tokens.length (String.ofList (trim line)))

end Surface

namespace Rover

/-- Reads the line `x y heading`; the rover exists only if its point lies on the surface. -/
def place (id : Int) (line : List Char) (surface : Surface) : Except RunError Rover :=
  match words line with
  | [xToken, yToken, headingToken] => do
    let x ← readCoordinate (.robotCoordinateParse id Axis.x.name (String.ofList xToken)) xToken
    let y ← readCoordinate (.robotCoordinateParse id Axis.y.name (String.ofList yToken)) yToken
    match Heading.ofToken? headingToken with
    | none => .error (.robotDirectionParse id (String.ofList headingToken))
    | some heading =>
      if surface.Contains ⟨x, y⟩ then .ok ⟨id, ⟨x, y⟩, heading⟩
      else .error (.robotOutOfBounds id x y)
  | tokens => .error (.robotInstructionLength id (String.ofList (trim line)) tokens.length)

/-- Follows commands until one is unreadable or leads off the surface, and tells where the rover
then is. -/
def walk (surface : Surface) : List Char → Rover → Rover × Option RunError
  | [], r => (r, none)
  | c :: rest, r =>
    match Command.ofChar? c with
    | none => (r, some (.robotMovementParse r.id (String.singleton c)))
    | some command =>
      let next := r.follow command
      if surface.Contains next.point then walk surface rest next
      else (next, some (.robotOutOfBounds r.id next.point.x next.point.y))

def guide (surface : Surface) (commands : List Char) (r : Rover) : Rover × Option RunError :=
  r.walk surface (trim commands)

end Rover

end Plateau

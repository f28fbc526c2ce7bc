import Plateau.Text.Quoted

namespace Plateau

/-- A compass heading.  `unknown` stands for no heading and never moves. -/
inductive Heading where
  | north
  | east
  | south
  | west
  | unknown
  deriving DecidableEq, Repr

inductive Command where
  | left
  | right
  | move
  | unknown
  deriving DecidableEq, Repr

inductive Unrecognised where
  | direction (token : String)
  | movement (token : String)
  | heading (letter : String)
  | command (letter : String)
  deriving DecidableEq, Repr

def Unrecognised.message : Unrecognised → String
  | .direction token => s!"'{token}' is not a valid direction"
  | .movement token => s!"'{token}' is not a valid move"
  | .heading letter => s!"{String.ofList (Text.quoted letter.toList)} is not a valid Heading"
  | .command letter => s!"{String.ofList (Text.quoted letter.toList)} is not a valid Command"

namespace Heading

def letter : Heading → Char
  | north => 'N'
  | east => 'E'
  | south => 'S'
  | west => 'W'
  | unknown => '_'

def name : Heading → String
  | north => "NORTH"
  | east => "EAST"
  | south => "SOUTH"
  | west => "WEST"
  | unknown => "UNKNOWN"

/-- Only the four compass headings can be read from an instruction. -/
def ofToken? : List Char → Option Heading
  | ['N'] => some north
  | ['E'] => some east
  | ['S'] => some south
  | ['W'] => some west
  | _ => none

def read (token : String) : Except Unrecognised Heading :=
  match ofToken? token.toList with
  | some h => .ok h
  | none => .error (.direction token)

def ofLetter (text : String) : Except Unrecognised Heading :=
  match ofToken? text.toList with
  | some h => .ok h
  | none => if text == "_" then .ok unknown else .error (.heading text)

def turnLeft : Heading → Heading
  | north => west
  | west => south
  | south => east
  | east => north
  | unknown => unknown

def turnRight : Heading → Heading
  | north => east
  | east => south
  | south => west
  | west => north
  | unknown => unknown

theorem ofToken?_letter {h : Heading} (hh : h ≠ unknown) : ofToken? [h.letter] = some h := by
  cases h <;> first | rfl | contradiction

end Heading

namespace Command

def letter : Command → Char
  | left => 'L'
  | right => 'R'
  | move => 'M'
  | unknown => '_'

def name : Command → String
  | left => "LEFT"
  | right => "RIGHT"
  | move => "MOVE"
  | unknown => "UNKNOWN"

def ofChar? : Char → Option Command
  | 'L' => some left
  | 'R' => some right
  | 'M' => some move
  | _ => none

def ofToken? : List Char → Option Command
  | [c] => ofChar? c
  | _ => none

def read (token : String) : Except Unrecognised Command :=
  match ofToken? token.toList with
  | some c => .ok c
  | none => .error (.movement token)

def ofLetter (text : String) : Except Unrecognised Command :=
  match ofToken? text.toList with
  | some c => .ok c
  | none => if text == "_" then .ok unknown else .error (.command text)

end Command

@[ext] structure Transition where
  dx : Int
  dy : Int
  heading : Heading
  deriving DecidableEq, Repr

def Heading.ahead : Heading → Transition
  | .north => ⟨0, 1, .north⟩
  | .east => ⟨1, 0, .east⟩
  | .south => ⟨0, -1, .south⟩
  | .west => ⟨-1, 0, .west⟩
  | .unknown => ⟨0, 0, .unknown⟩

/-- Turning never moves the rover, and moving never turns it. -/
def travel (h : Heading) : Command → Transition
  | .left => ⟨0, 0, h.turnLeft⟩
  | .right => ⟨0, 0, h.turnRight⟩
  | .move => h.ahead
  | .unknown => ⟨0, 0, h⟩

end Plateau

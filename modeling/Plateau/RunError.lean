import Plateau.Data.Value
import Plateau.Number.Numeral

namespace Plateau

inductive ErrorKind where
  | tooFewLines
  | evenLineCount
  | surfaceDimensionMismatch
  | surfaceBoundaryParse
  | surfaceBoundsInvalid
  | robotInstructionLength
  | robotCoordinateParse
  | robotDirectionParse
  | robotOutOfBounds
  | robotMovementParse
  deriving DecidableEq, Repr

namespace ErrorKind

def all : List ErrorKind :=
  [tooFewLines, evenLineCount, surfaceDimensionMismatch, surfaceBoundaryParse,
    surfaceBoundsInvalid, robotInstructionLength, robotCoordinateParse, robotDirectionParse,
    robotOutOfBounds, robotMovementParse]

def name : ErrorKind → String
  | tooFewLines => "TooFewLines"
  | evenLineCount => "EvenLineCount"
  | surfaceDimensionMismatch => "SurfaceDimensionMismatch"
  | surfaceBoundaryParse => "SurfaceBoundaryParse"
  | surfaceBoundsInvalid => "SurfaceBoundsInvalid"
  | robotInstructionLength => "RobotInstructionLength"
  | robotCoordinateParse => "RobotCoordinateParse"
  | robotDirectionParse => "RobotDirectionParse"
  | robotOutOfBounds => "RobotOutOfBounds"
  | robotMovementParse => "RobotMovementParse"

def ofName? (name : String) : Option ErrorKind :=
  all.find? (·.name == name)

theorem mem_all (k : ErrorKind) : k ∈ all := by
  cases k <;> decide

theorem ofName?_name (k : ErrorKind) : ofName? k.name = some k := by
  cases k <;> rfl

end ErrorKind

inductive RunError where
  | tooFewLines (lines : Int)
  | evenLineCount (lines : Int)
  | surfaceDimensionMismatch (dimensions : Int) (surface : String)
  | surfaceBoundaryParse (coordinate boundary : String)
  | surfaceBoundsInvalid (coordinate : String) (value lowerBound : Int)
  | robotInstructionLength (roverId : Int) (instructions : String) (tokens : Int)
  | robotCoordinateParse (roverId : Int) (coordinate position : String)
  | robotDirectionParse (roverId : Int) (direction : String)
  | robotOutOfBounds (roverId x y : Int)
  | robotMovementParse (roverId : Int) (movement : String)
  deriving DecidableEq, Repr

def minimumLines : Nat := 3

def surfaceDimensions : Nat := 2

def placementTokens : Nat := 3

namespace RunError

open Numeral (write Overflow)

def kind : RunError → ErrorKind
  | tooFewLines .. => .tooFewLines
  | evenLineCount .. => .evenLineCount
  | surfaceDimensionMismatch .. => .surfaceDimensionMismatch
  | surfaceBoundaryParse .. => .surfaceBoundaryParse
  | surfaceBoundsInvalid .. => .surfaceBoundsInvalid
  | robotInstructionLength .. => .robotInstructionLength
  | robotCoordinateParse .. => .robotCoordinateParse
  | robotDirectionParse .. => .robotDirectionParse
  | robotOutOfBounds .. => .robotOutOfBounds
  | robotMovementParse .. => .robotMovementParse

def detail : RunError → Fields
  | tooFewLines lines => [("lines", .int lines)]
  | evenLineCount lines => [("lines", .int lines)]
  | surfaceDimensionMismatch dimensions surface =>
    [("dimensions", .int dimensions), ("surface", .text surface)]
  | surfaceBoundaryParse coordinate boundary =>
    [("coordinate", .text coordinate), ("boundary", .text boundary)]
  | surfaceBoundsInvalid coordinate value lowerBound =>
    [("coordinate", .text coordinate), ("value", .int value), ("lower_bound", .int lowerBound)]
  | robotInstructionLength roverId instructions tokens =>
    [("rover_id", .int roverId), ("instructions", .text instructions), ("tokens", .int tokens)]
  | robotCoordinateParse roverId coordinate position =>
    [("rover_id", .int roverId), ("coordinate", .text coordinate), ("position", .text position)]
  | robotDirectionParse roverId direction =>
    [("rover_id", .int roverId), ("direction", .text direction)]
  | robotOutOfBounds roverId x y => [("rover_id", .int roverId), ("x", .int x), ("y", .int y)]
  | robotMovementParse roverId movement =>
    [("rover_id", .int roverId), ("movement", .text movement)]

def toFields (e : RunError) : Fields :=
  ("kind", .text e.kind.name) :: e.detail

def message : RunError → Except Overflow String
  | tooFewLines lines => do
    let n ← write lines
    return s!"the input should have at least {minimumLines} lines - {n} lines were detected"
  | evenLineCount lines => do
    let n ← write lines
    return s!"the input should have an odd number of lines - {n} lines were detected"
  | surfaceDimensionMismatch dimensions surface => do
    let n ← write dimensions
    return s!"surface '{surface}' does not have the required number of surface dimensions - " ++
      s!"expected {surfaceDimensions} dimensions - detected {n} instead"
  | surfaceBoundaryParse coordinate boundary =>
    return s!"{coordinate} coordinate boundary '{boundary}' cannot be transformed into an int"
  | surfaceBoundsInvalid coordinate value lowerBound => do
    let upper ← write value
    let lower ← write lowerBound
    return s!"unable to create new surface: the upper bound {upper} for coordinate " ++
      s!"{coordinate} must be greater than or equal to {lower}"
  | robotInstructionLength roverId instructions tokens => do
    let id ← write roverId
    let n ← write tokens
    return s!"'{instructions}' for robot ID {id} does not have the required number of " ++
      s!"instructions - expected {placementTokens} - detected {n} instead"
  | robotCoordinateParse roverId coordinate position => do
    let id ← write roverId
    return s!"robot ID {id}'s {coordinate}-coordinate '{position}' cannot be transformed into " ++
      "an int"
  | robotDirectionParse roverId direction => do
    let id ← write roverId
    return s!"unable to parse robot ID {id}'s direction: '{direction}' is not a valid direction"
  | robotOutOfBounds roverId x y => do
    let id ← write roverId
    let px ← write x
    let py ← write y
    return s!"robot ID {id} has moved out of bounds - X: {px} Y: {py}"
  | robotMovementParse roverId movement => do
    let id ← write roverId
    return s!"unable to parse robot ID {id}'s movement: '{movement}' is not a valid move"

end RunError

end Plateau

import Plateau.Console.Markup
import Plateau.Console.Wrap

namespace Plateau.Console

open Text (cells fitCells)

structure Screen where
  /-- The width in cells; nothing is shown on a console without width. -/
  width : Int
  device : Device
  color : Bool

namespace Screen

def crop (width : Nat) : Line → Line
  | [] => []
  | r :: rest =>
    if cells r.text < width then r :: crop (width - cells r.text) rest
    else [⟨r.style, fitCells width r.text⟩]

def cropLine (width : Nat) (line : Line) : Line :=
  if cells line.chars ≤ width then line else crop width line

def paint (s : Screen) (r : Run) : List Char :=
  if s.device.terminal then (if s.color then r.style else r.style.withoutColor).paint r.text
  else r.text

def write (s : Screen) (lines : List Line) : List Char :=
  if s.width < 1 then []
  else lines.flatMap fun line => (cropLine s.width.toNat line).flatMap s.paint ++ ['\n']

def layout (s : Screen) (t : Styled) : List Line :=
  (t.wrap .ragged .fold s.width.toNat).map Styled.toLine

def print (s : Screen) (t : Styled) : List Char :=
  s.write (s.layout t)

def printMarkup (s : Screen) (markup : List Char) : Except MarkupError (List Char) := do
  let t ← Styled.ofMarkup s.device markup
  match (if s.width < 1 then none else Styled.fault? (t.wrap .ragged .fold s.width.toNat)) with
  | some fault => throw (.color fault)
  | none => return s.print t

def printBlank (s : Screen) : List Char :=
  s.write [[]]

end Screen

end Plateau.Console

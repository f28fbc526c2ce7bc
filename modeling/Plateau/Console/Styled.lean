import Plateau.Console.Style
import Plateau.Text.Blank
import Plateau.Text.Cells

namespace Plateau.Console

open Text (cells fitCells charCells)

structure Run where
  style : Style
  text : List Char

abbrev Line := List Run

namespace Line

def chars (l : Line) : List Char :=
  l.flatMap (·.text)

def onto (lower : Style) (l : Line) : Line :=
  l.map fun r => { r with style := r.style.above lower }

def blank (style : Style) (width : Nat) : Line :=
  if width == 0 then [] else [⟨style, List.replicate width ' '⟩]

end Line

/-- A style for the characters from `start` up to `stop`, or what keeps it from being read. -/
structure Span where
  start : Nat
  stop : Nat
  style : Except Color.Fault Style

namespace Span

def shift (n : Nat) (s : Span) : Span :=
  { s with start := s.start + n, stop := s.stop + n }

/-- The part of a span between two offsets, counted from the first of them. -/
def clip (start stop : Nat) (s : Span) : Option Span :=
  let from' := max s.start start
  let upto := min s.stop stop
  if from' < upto then some ⟨from' - start, upto - start, s.style⟩ else none

def cutOff (length : Nat) (s : Span) : Option Span :=
  if s.start < length then some { s with stop := min length s.stop } else none

def covers (start stop : Nat) (s : Span) : Bool :=
  s.start ≤ start && stop ≤ s.stop

def fault? (s : Span) : Option Color.Fault :=
  match s.style with
  | .ok _ => none
  | .error fault => some fault

def shown (s : Span) : Style :=
  s.style.toOption.getD .plain

end Span

structure Styled where
  chars : List Char := []
  spans : List Span := []

namespace Styled

/-- Bell, backspace, vertical tab, form feed and carriage return, which are never shown. -/
def isDropped (c : Char) : Bool :=
  let n := c.toNat
  n == 7 || n == 8 || n == 11 || n == 12 || n == 13

def clean (s : List Char) : List Char :=
  s.filter fun c => !isDropped c

def of (style : Style) (s : List Char) : Styled :=
  let s := clean s
  ⟨s, if style.isPlain then [] else [⟨0, s.length, .ok style⟩]⟩

def ofString (style : Style) (s : String) : Styled :=
  of style s.toList

def length (t : Styled) : Nat :=
  t.chars.length

def append (t u : Styled) : Styled :=
  ⟨t.chars ++ u.chars, t.spans ++ u.spans.map (Span.shift t.length)⟩

def join (separator : List Char) : List Styled → Styled
  | [] => {}
  | [t] => t
  | t :: ts => (t.append (of .plain separator)).append (join separator ts)

def slice (start stop : Nat) (t : Styled) : Styled :=
  ⟨(t.chars.drop start).take (stop - start), t.spans.filterMap (Span.clip start stop)⟩

/-- The parts from `start` on between offsets that do not decrease. -/
def slices (start : Nat) (t : Styled) : List Nat → List Styled
  | [] => [t.slice start t.length]
  | offset :: rest => t.slice start offset :: slices offset t rest

def cutAt (t : Styled) (offsets : List Nat) : List Styled :=
  if offsets.isEmpty then [t] else slices 0 t offsets

/-- The lines of a text that begin at offsets and have the given lengths. -/
def linesFrom (start : Nat) (t : Styled) : List Nat → List Styled
  | [] => []
  | n :: rest => t.slice start (start + n) :: linesFrom (start + n + 1) t rest

def lines (t : Styled) : List Styled :=
  match Text.lines t.chars with
  | [_] => [t]
  | pieces => linesFrom 0 t (pieces.map List.length)

def take (n : Nat) (t : Styled) : Styled :=
  if t.length ≤ n then t
  else ⟨t.chars.take n, t.spans.filterMap (Span.cutOff n)⟩

/-- New characters in the styles of the old ones at the same places. -/
def restyle (t : Styled) (s : List Char) : Styled :=
  ⟨s, if s.length < t.length then t.spans.filterMap (Span.cutOff s.length) else t.spans⟩

/-- Drops blanks at the end as far as the text has more than `width` characters. -/
def trimExcess (width : Nat) (t : Styled) : Styled :=
  let excess := t.length - width
  let blanks := t.length - (Text.trimEnd t.chars).length
  t.take (t.length - min excess blanks)

def trimEnd (t : Styled) : Styled :=
  t.take (Text.trimEnd t.chars).length

def padTo (width : Nat) (t : Styled) : Styled :=
  { t with chars := t.chars ++ List.replicate (width - cells t.chars) ' ' }

def padFront (width : Nat) (t : Styled) : Styled :=
  append (of .plain (List.replicate (width - cells t.chars) ' ')) t

inductive Overflow where
  /-- Words are broken, and what is left over is cut off. -/
  | fold
  /-- An ellipsis takes the place of what is left over. -/
  | ellipsis
  deriving DecidableEq, Repr

def truncate (overflow : Overflow) (width : Nat) (t : Styled) : Styled :=
  if cells t.chars ≤ width then t
  else match overflow with
    | .fold => t.restyle (fitCells width t.chars)
    | .ellipsis => t.restyle (fitCells (width - 1) t.chars ++ ['…'])

/-- Offsets just after the tabs of a text, `n` being the offset of its first character. -/
def tabEnds (n : Nat) : List Char → List Nat
  | [] => []
  | c :: s => if c == '\t' then (n + 1) :: tabEnds (n + 1) s else tabEnds (n + 1) s

def expandTab (column : Nat) (t : Styled) : Styled :=
  if t.chars.getLast? == some '\t' then
    let s := t.chars.dropLast ++ [' ']
    let used := column + cells s
    let more := (8 - used % 8) % 8
    ⟨s ++ List.replicate more ' ', t.spans.map fun sp =>
      if t.length ≤ sp.stop then { sp with stop := sp.stop + more } else sp⟩
  else t

/-- Expands the tabs that end parts of a line, from a column on. -/
def expandParts (column : Nat) : List Styled → Styled
  | [] => {}
  | t :: rest =>
    let t := t.expandTab column
    t.append (expandParts (column + cells t.chars) rest)

def expandTabs (t : Styled) : Styled :=
  if t.chars.contains '\t' then expandParts 0 (t.cutAt (tabEnds 0 t.chars)) else t

/-- The offsets at which a span begins or ends, in order, and each once. -/
def boundaries (t : Styled) : List Nat :=
  let ends := t.spans.flatMap fun s => [s.start, s.stop]
  (List.range t.length).filter fun n => n != 0 && ends.contains n

def styleBetween (t : Styled) (start stop : Nat) : Style :=
  (t.spans.filter (·.covers start stop)).foldl (fun lower s => s.shown.above lower) .plain

def runsFrom (start : Nat) (t : Styled) : List Nat → Line
  | [] =>
    if start < t.length then [⟨t.styleBetween start t.length, t.chars.drop start⟩] else []
  | offset :: rest =>
    ⟨t.styleBetween start offset, (t.chars.drop start).take (offset - start)⟩ ::
      runsFrom offset t rest

def fault? (ts : List Styled) : Option Color.Fault :=
  (ts.flatMap (·.spans)).findSome? Span.fault?

def toLine (t : Styled) : Line :=
  runsFrom 0 t t.boundaries

end Styled

end Plateau.Console

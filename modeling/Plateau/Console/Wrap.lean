import Plateau.Console.Styled

namespace Plateau.Console

open Text (cells chopCells isBlank)

/-- Where in a word the reader is: in the blanks before it, in the word, or in the blanks after. -/
inductive WordPart where
  | before
  | inside
  | after

/-- Cuts a line into words with the blanks after each; blanks at the start belong to the first word,
and a line of blanks has none.  `word` holds the characters read, the last one first. -/
def cutWords (part : WordPart) (word : List Char) : List Char → List (List Char)
  | [] =>
    match part with
    | .before => []
    | _ => [word.reverse]
  | c :: s =>
    match part, isBlank c with
    | .before, true => cutWords .before (c :: word) s
    | .before, false => cutWords .inside (c :: word) s
    | .inside, true => cutWords .after (c :: word) s
    | .inside, false => cutWords .inside (c :: word) s
    | .after, true => cutWords .after (c :: word) s
    | .after, false => word.reverse :: cutWords .inside [c] s

def breakAt (offset : Nat) : List Nat :=
  if offset == 0 then [] else [offset]

def breakParts (start : Nat) : List (List Char) → List Nat
  | [] => []
  | part :: parts => breakAt start ++ breakParts (start + part.length) parts

/-- The offsets at which words that stand from `start` on, `used` cells being taken, are broken. -/
def breaksFrom (width : Nat) (fold : Bool) (start used : Nat) : List (List Char) → List Nat
  | [] => []
  | word :: rest =>
    let size := cells (Text.trimEnd word)
    let next := start + word.length
    if used + size ≤ width then breaksFrom width fold next (used + cells word) rest
    else if size > width then
      if fold then
        let parts := chopCells width word
        breakParts start parts ++ breaksFrom width fold next (cells (parts.getLast?.getD [])) rest
      else breakAt start ++ breaksFrom width fold next (cells word) rest
    else if used != 0 && start != 0 then
      start :: breaksFrom width fold next (cells word) rest
    else breaksFrom width fold next used rest

def breaks (width : Nat) (fold : Bool) (line : List Char) : List Nat :=
  breaksFrom width fold 0 0 (cutWords .before [] line)

inductive Justify where
  | ragged
  | left
  | right
  deriving DecidableEq, Repr

namespace Styled

def justify (how : Justify) (overflow : Overflow) (width : Nat) (t : Styled) : Styled :=
  match how with
  | .ragged => t
  | .left => (t.truncate overflow width).padTo width
  | .right =>
    let t := t.trimEnd.truncate overflow width
    t.padFront width

def wrapLine (how : Justify) (overflow : Overflow) (width : Nat) (line : Styled) : List Styled :=
  let line := line.expandTabs
  (line.cutAt (breaks width (overflow == .fold) line.chars)).map fun part =>
    ((part.trimExcess width).justify how overflow width).truncate overflow width

def wrap (how : Justify) (overflow : Overflow) (width : Nat) (t : Styled) : List Styled :=
  t.lines.flatMap (wrapLine how overflow width)

end Styled

end Plateau.Console

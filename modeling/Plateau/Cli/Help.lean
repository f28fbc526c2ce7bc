import Plateau.Cli.Arguments
import Plateau.Console.Wrap

namespace Plateau.Cli

open Console (Styled Style)

def pageWidth : Nat := 80

/-- The greatest width of a first column, and the blanks after it. -/
def labelLimit : Nat := 30

def labelGap : Nat := 2

def margin : Nat := 2

def blanks (n : Nat) : String :=
  String.ofList (List.replicate n ' ')

def wrapText (width : Nat) (s : String) : List String :=
  ((Styled.ofString .plain s).wrap .ragged .fold width).map fun line =>
    String.ofList (Text.trimEnd line.chars)

def paragraph (s : String) : List String :=
  (wrapText (pageWidth - margin) s).map (blanks margin ++ ·)

/-- One entry of a list whose labels take a column of some width. -/
def entryLines (column : Nat) (label text : String) : List String :=
  let lines := wrapText (pageWidth - column - margin) text
  let indent := blanks (column + margin)
  let label := blanks margin ++ label
  if label.length + labelGap ≤ column + margin then
    match lines with
    | [] => [label]
    | first :: rest =>
      (label ++ blanks (column + margin - label.length) ++ first) :: rest.map (indent ++ ·)
  else label :: lines.map (indent ++ ·)

def definitions (title : String) (entries : List (String × String)) : List String :=
  let longest := (entries.map (·.1.length)).foldl max 0
  let column := min longest labelLimit + labelGap
  (title ++ ":") :: entries.flatMap fun (label, text) => entryLines column label text

def Opt.label {α : Type} (o : Opt α) : String :=
  let names := " / ".intercalate (", ".intercalate o.names :: o.opposite.toList.map (·.1))
  match o.value with
  | none => names
  | some value => names ++ " " ++ value

/-- The first sentence of a text, cut off at words if it is longer than the limit. -/
def summary (limit : Nat) (s : String) : String :=
  let words := (Text.words s.toList).map String.ofList
  let sentence := words.takeWhile (fun w => !w.endsWith ".") ++
    (words.dropWhile fun w => !w.endsWith ".").take 1
  let text := " ".intercalate sentence
  if text.length ≤ limit then text
  else
    let kept := ((List.range sentence.length).reverse.find? fun n =>
      (" ".intercalate (sentence.take n)).length + 3 ≤ limit).getD 0
    " ".intercalate (sentence.take kept) ++ "..."

/-- A command: how it is called, what it takes besides options, and what it does. -/
structure Command (α : Type) where
  path : String
  arguments : String
  about : List String
  options : List (Opt α)

namespace Command

variable {α : Type}

def usage (c : Command α) : String :=
  s!"Usage: {c.path} {c.arguments}"

def help (c : Command α) (parts : List (String × String)) : String :=
  let limit := pageWidth - 3 * margin - ((parts.map (·.1.length)).foldl max 0)
  let sections := [[c.usage]] ++ c.about.map paragraph ++
    [definitions "Options" (c.options.map fun o => (o.label, o.help))] ++
    if parts.isEmpty then []
    else [definitions "Commands" (parts.map fun (name, about) => (name, summary limit about))]
  "\n\n".intercalate (sections.map ("\n".intercalate ·))

def complaint (c : Command α) (m : Misuse) : String :=
  (if m.tellsUsage then s!"{c.usage}\nTry '{c.path} --help' for help.\n\n" else "") ++
    s!"Error: {m.message}"

end Command

end Plateau.Cli

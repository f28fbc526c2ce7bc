import Plateau.Console.Styled

namespace Plateau.Console

/-- What keeps markup from being shown: a closing tag that closes nothing, the parameters of a
handler, or a color. -/
inductive MarkupError where
  | unmatched (tag : List Char) (position : Nat)
  | nothingToClose (position : Nat)
  | parameters (message : String)
  | color (fault : Color.Fault)
  deriving DecidableEq, Repr

def MarkupError.message : MarkupError → String
  | .unmatched tag position =>
    s!"closing tag '[{String.ofList tag}]' at position {position} doesn't match any open tag"
  | .nothingToClose position => s!"closing tag '[/]' at position {position} has nothing to close"
  | .parameters message => message
  | .color fault => fault.message

/-- What is written to, and what its library brings along. -/
structure Device where
  terminal : Bool
  /-- The pictures that stand for names in small letters. -/
  picture? : String → Option String := fun _ => none
  /-- The styles that names stand for, besides those of the program. -/
  named : List (String × Style) := []
  /-- What is wrong with the parameters of a handler. -/
  parameterFault? : String → Option String := fun _ => none

namespace Markup

inductive Piece where
  | text (s : List Char)
  | tag (position : Nat) (s : List Char)

def startsTag (c : Char) : Bool :=
  ('a' ≤ c && c ≤ 'z') || c == '#' || c == '/' || c == '@'

def tagBody : List Char → Option (List Char × List Char)
  | [] => none
  | c :: s =>
    if c == ']' then some ([], s)
    else if c == '[' then none
    else (tagBody s).map fun (body, rest) => (c :: body, rest)

def tagAfter : List Char → Option (List Char × List Char)
  | [] => none
  | c :: s =>
    if startsTag c then (tagBody s).map fun (body, rest) => (c :: body, rest) else none

def pending (text : List Char) : List Piece :=
  if text.isEmpty then [] else [.text text.reverse]

/-- The pieces of what is left.  `text` holds the plain text before it and `slashes` the number of
backslashes between the two, the last character first; `skip` characters belong to a tag that was
read. -/
def piecesFrom (position : Nat) (text : List Char) (slashes skip : Nat) : List Char → List Piece
  | [] => pending (List.replicate slashes '\\' ++ text)
  | c :: s =>
    if skip > 0 then piecesFrom (position + 1) text slashes (skip - 1) s
    else if c == '\\' then piecesFrom (position + 1) text (slashes + 1) 0 s
    else
      match (if c == '[' then tagAfter s else none) with
      | none => piecesFrom (position + 1) (c :: List.replicate slashes '\\' ++ text) 0 0 s
      | some (body, _) =>
        let literal := List.replicate (slashes / 2) '\\'
        let before := pending text ++ (if slashes / 2 == 0 then [] else [.text literal])
        if slashes % 2 == 1 then
          before ++ .text ('[' :: body ++ [']']) ::
            piecesFrom (position + 1) [] 0 (body.length + 1) s
        else
          before ++ .tag position body ::
            piecesFrom (position + 1) [] 0 (body.length + 1) s

def pieces (s : List Char) : List Piece :=
  piecesFrom 0 [] 0 0 s

/-- A bracket that is escaped but begins no tag stands for itself. -/
def unescape : List Char → List Char
  | [] => []
  | '\\' :: '[' :: s => '[' :: unescape s
  | c :: s => c :: unescape s

def variants : List (String × Char) := [("emoji", '\ufe0f'), ("text", '\ufe0e')]

def variantAfter (s : List Char) : Option (Char × List Char) :=
  variants.findSome? fun (name, selector) =>
    let mark := '-' :: name.toList ++ [':']
    if mark.isPrefixOf s then some (selector, s.drop mark.length) else none

/-- The name up to the next colon, its variant, and what follows; a blank ends the search. -/
def nameAfter : List Char → Option (List Char × Option Char × List Char)
  | [] => none
  | c :: s =>
    match variantAfter (c :: s) with
    | some (selector, rest) => some ([], some selector, rest)
    | none =>
      if c == ':' then some ([], none, s)
      else if Text.isBlank c then none
      else (nameAfter s).map fun (name, variant, rest) => (c :: name, variant, rest)

/-- Puts pictures in the place of their names between colons; `skip` characters were read. -/
def picturesFrom (device : Device) (skip : Nat) : List Char → List Char
  | [] => []
  | c :: s =>
    if skip > 0 then picturesFrom device (skip - 1) s
    else match (if c == ':' then nameAfter s else none) with
      | none => c :: picturesFrom device 0 s
      | some (name, variant, rest) =>
        let length := s.length - rest.length
        (match device.picture? (Text.lower (String.ofList name)) with
          | some picture => picture.toList ++ variant.toList
          | none => c :: s.take length) ++ picturesFrom device length s

def pictures (device : Device) (s : List Char) : List Char :=
  picturesFrom device 0 s

def splitTag (body : List Char) : List Char × Option (List Char) :=
  match body.dropWhile (· != '=') with
  | [] => (body, none)
  | _ :: value => (body.takeWhile (· != '='), some value)

/-- The style that words define. -/
def styleOf? (definition : String) : Except Color.Fault (Option Style) :=
  let words := (Text.words definition.toList).map String.ofList
  if words.isEmpty || words == ["none"] then .ok (some .plain) else Style.ofWords .plain words

/-- The name by which tags are matched: that of the style, or the tag itself in small letters. -/
def normalize (name : List Char) : Except MarkupError String :=
  match styleOf? (String.ofList name) with
  | .error fault => .error (.color fault)
  | .ok (some style) => .ok style.name
  | .ok none => .ok (Text.lower (String.ofList (Text.trim name)))

structure OpenTag where
  name : String
  parameters : Option (List Char)
  start : Nat

namespace OpenTag

def ofBody (body : List Char) (start : Nat) : Except MarkupError OpenTag := do
  let (name, parameters) := splitTag body
  return ⟨← normalize name, parameters, start⟩

def style (device : Device) (t : OpenTag) : Except Color.Fault Style :=
  let definition := match t.parameters with
    | some v => t.name ++ " " ++ String.ofList v
    | none => t.name
  match (Theme.named ++ device.named).lookup definition with
  | some style => .ok style
  | none => return (← styleOf? definition).getD .plain

def toSpan (device : Device) (stop : Nat) (t : OpenTag) : Span :=
  ⟨t.start, stop, t.style device⟩

/-- The span of a tag that is closed.  A handler has no style, but its parameters are read. -/
def close (device : Device) (stop : Nat) (t : OpenTag) : Except MarkupError Span :=
  if t.name.toList.head? == some '@' then
    let parameters := String.ofList (t.parameters.getD [])
    match (if parameters.isEmpty then none else device.parameterFault? parameters) with
    | some message => .error (.parameters message)
    | none => .ok ⟨t.start, stop, .ok .plain⟩
  else .ok (t.toSpan device stop)

end OpenTag

def close? (name : String) : List OpenTag → Option (OpenTag × List OpenTag)
  | [] => none
  | t :: rest =>
    if t.name == name then some (t, rest)
    else (close? name rest).map fun (found, others) => (found, t :: others)

def closeTag (position : Nat) (body : List Char) (tags : List OpenTag) :
    Except MarkupError (OpenTag × List OpenTag) := do
  let name := Text.trim (splitTag (body.drop 1)).1
  if name.isEmpty then
    match tags with
    | [] => .error (.nothingToClose position)
    | t :: rest => .ok (t, rest)
  else
    match close? (← normalize name) tags with
    | none => .error (.unmatched body position)
    | some found => .ok found

/-- The text of pieces from an offset on, and the spans in the order in which their tags are closed;
tags that are never closed end with the text, the innermost first. -/
def readPieces (device : Device) (offset : Nat) (tags : List OpenTag) :
    List Piece → Except MarkupError (List Char × List Span)
  | [] => .ok ([], tags.map (OpenTag.toSpan device offset))
  | .text s :: rest => do
    let s := Styled.clean (pictures device (unescape s))
    let (text, spans) ← readPieces device (offset + s.length) tags rest
    return (s ++ text, spans)
  | .tag position body :: rest =>
    if body.head? == some '/' then do
      let (tag, tags) ← closeTag position body tags
      let span ← tag.close device offset
      let (text, spans) ← readPieces device offset tags rest
      return (text, span :: spans)
    else do
      let tag ← OpenTag.ofBody body offset
      readPieces device offset (tag :: tags) rest

end Markup

/-- Reads markup.  Of two spans the one that begins later lies above, or the one that is closed
first. -/
def Styled.ofMarkup (device : Device) (s : List Char) : Except MarkupError Styled := do
  let (chars, spans) ← Markup.readPieces device 0 [] (Markup.pieces s)
  return ⟨chars, spans.reverse.mergeSort fun a b => a.start ≤ b.start⟩

end Plateau.Console

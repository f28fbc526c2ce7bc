import Plateau.Text.Hex
import Plateau.Toml.Fault

namespace Plateau.Toml

def isSpace (c : Char) : Bool := c == ' ' || c == '\t'

def isSpaceOrNewline (c : Char) : Bool := isSpace c || c == '\n'

def skipSpace (s : List Char) : List Char := s.dropWhile isSpace

/-- Controls, which no text may hold; a tab is none. -/
def isControl (c : Char) : Bool :=
  (c.toNat < 32 && c != '\t') || c.toNat == 127

def isControlOrNewline (multiline : Bool) (c : Char) : Bool :=
  isControl c && !(multiline && c == '\n')

def startsWith (p s : List Char) : Bool := p.isPrefixOf s

def skipComment : List Char → Except Fault (List Char)
  | '#' :: s => comment s
  | s => .ok s
where
  comment : List Char → Except Fault (List Char)
    | [] => .ok []
    | c :: s =>
      if c == '\n' then .ok (c :: s)
      else if isControl c then faultAt (.invalidCharacter c) (c :: s)
      else comment s

/-- Skips white space, line ends and comments; `fuel` bounds the comments. -/
def skipBlank (fuel : Nat) (s : List Char) : Except Fault (List Char) :=
  match fuel with
  | 0 => .ok s
  | fuel + 1 =>
    match s.dropWhile isSpaceOrNewline with
    | '#' :: t => do
      let rest ← skipComment ('#' :: t)
      skipBlank fuel rest
    | t => .ok t

def splitAt? (delimiter : List Char) : List Char → Option (List Char × List Char)
  | [] => if delimiter.isEmpty then some ([], []) else none
  | c :: s =>
    if startsWith delimiter (c :: s) then some ([], (c :: s).drop delimiter.length)
    else (splitAt? delimiter s).map fun (text, rest) => (c :: text, rest)

/-- The first control in `text`, told by what is then left of `s`. -/
def checkControls (multiline : Bool) (text s : List Char) : Except Fault Unit :=
  match text.dropWhile fun c => !isControlOrNewline multiline c with
  | [] => .ok ()
  | c :: after => .error ⟨.invalidCharacter c, s.length - (text.length - (c :: after).length)⟩

def literalText (multiline : Bool) (delimiter : List Char) : Step (List Char) := fun s =>
  match splitAt? delimiter s with
  | none => .error ⟨.expectedDelimiter delimiter, 0⟩
  | some (text, rest) => do
    checkControls multiline text s
    return (text, rest)

def hexChar (digits : Nat) : Step Char := fun s =>
  let code := s.take digits
  if code.length != digits then faultAt .invalidHex s
  else match Text.readHex code with
    | none => faultAt .invalidHex s
    | some n =>
      if n < 0xD800 || (0xE000 ≤ n && n ≤ 0x10FFFF) then .ok (Char.ofNat n, s.drop digits)
      else faultAt .notScalar (s.drop digits)

def shortEscape? : Char → Option Char
  | 'b' => some '\x08'
  | 't' => some '\t'
  | 'n' => some '\n'
  | 'f' => some '\x0c'
  | 'r' => some '\r'
  | '"' => some '"'
  | '\\' => some '\\'
  | _ => none

/-- What stands after a backslash.  In a text of several lines a line end there, with all white
space around it, means nothing. -/
def escaped (multiline : Bool) : Step (List Char) := fun s =>
  match s with
  | [] => faultAt .unescapedBackslash []
  | c :: t =>
    if multiline && c == '\n' then .ok ([], t.dropWhile isSpaceOrNewline)
    else if multiline && isSpace c then
      match skipSpace t with
      | [] => .ok ([], [])
      | '\n' :: u => .ok ([], u.dropWhile isSpaceOrNewline)
      | u => faultAt .unescapedBackslash u
    else if c == 'u' then (hexChar 4 t).map fun (d, rest) => ([d], rest)
    else if c == 'U' then (hexChar 8 t).map fun (d, rest) => ([d], rest)
    else match shortEscape? c with
      | some d => .ok ([d], t)
      | none => faultAt .unescapedBackslash t

/-- A text with escapes, after its opening quotes; `fuel` bounds the characters. -/
def basicText (multiline : Bool) (fuel : Nat) : Step (List Char) := fun s =>
  match fuel, s with
  | 0, s => faultAt .unterminatedText s
  | _ + 1, [] => faultAt .unterminatedText []
  | fuel + 1, c :: t =>
    if c == '"' then
      if !multiline then .ok ([], t)
      else match t with
        | '"' :: '"' :: rest => .ok ([], rest)
        | t => (basicText multiline fuel t).map fun (text, rest) => (c :: text, rest)
    else if c == '\\' then do
      let (d, t) ← escaped multiline t
      let (text, rest) ← basicText multiline fuel t
      return (d ++ text, rest)
    else if isControlOrNewline multiline c then faultAt (.illegalCharacter c) (c :: t)
    else (basicText multiline fuel t).map fun (text, rest) => (c :: text, rest)

/-- Up to two further quotes belong to a text that three quotes end. -/
def moreQuotes (quote : Char) (text : List Char) : List Char → List Char × List Char
  | a :: b :: rest =>
    if a == quote && b == quote then (text ++ [a, b], rest)
    else if a == quote then (text ++ [a], b :: rest)
    else (text, a :: b :: rest)
  | [a] => if a == quote then (text ++ [a], []) else (text, [a])
  | [] => (text, [])

def dropFirstNewline : List Char → List Char
  | '\n' :: s => s
  | s => s

def text : Step (List Char) := fun s =>
  match s with
  | '"' :: '"' :: '"' :: t => do
    let (text, rest) ← basicText true (t.length + 1) (dropFirstNewline t)
    return moreQuotes '"' text rest
  | '\'' :: '\'' :: '\'' :: t => do
    let (text, rest) ← literalText true ['\'', '\'', '\''] (dropFirstNewline t)
    return moreQuotes '\'' text rest
  | '\'' :: t => literalText false ['\''] t
  | _ :: t => basicText false (t.length + 1) t
  | [] => faultAt .unterminatedText []

def isBareKey (c : Char) : Bool :=
  c.isAlphanum || c == '-' || c == '_'

def startsKey (c : Char) : Bool :=
  isBareKey c || c == '"' || c == '\''

def keyPart : Step String := fun s =>
  match s with
  | '\'' :: t => (literalText false ['\''] t).map fun (text, rest) => (String.ofList text, rest)
  | '"' :: t =>
    (basicText false (t.length + 1) t).map fun (text, rest) => (String.ofList text, rest)
  | s =>
    if (s.takeWhile isBareKey).isEmpty then faultAt .invalidKeyStart s
    else .ok (String.ofList (s.takeWhile isBareKey), s.dropWhile isBareKey)

def keyFrom (fuel : Nat) : Step Key := fun s => do
  let (part, rest) ← keyPart s
  match fuel, skipSpace rest with
  | fuel + 1, '.' :: t => do
    let (parts, rest) ← keyFrom fuel (skipSpace t)
    return (part :: parts, rest)
  | _, t => return ([part], t)

def key : Step Key := fun s => keyFrom s.length s

end Plateau.Toml

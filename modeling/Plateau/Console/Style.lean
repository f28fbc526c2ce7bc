import Plateau.Console.Palette
import Plateau.Number.Numeral
import Plateau.Text.Hex
import Plateau.Text.Letters

namespace Plateau.Console

inductive Attribute where
  | bold
  | dim
  | italic
  | underline
  | blink
  | blink2
  | reverse
  | conceal
  | strike
  | underline2
  | frame
  | encircle
  | overline
  deriving DecidableEq, Repr

namespace Attribute

def all : List Attribute :=
  [bold, dim, italic, underline, blink, blink2, reverse, conceal, strike, underline2, frame,
    encircle, overline]

def name : Attribute → String
  | bold => "bold"
  | dim => "dim"
  | italic => "italic"
  | underline => "underline"
  | blink => "blink"
  | blink2 => "blink2"
  | reverse => "reverse"
  | conceal => "conceal"
  | strike => "strike"
  | underline2 => "underline2"
  | frame => "frame"
  | encircle => "encircle"
  | overline => "overline"

def code : Attribute → Nat
  | bold => 1
  | dim => 2
  | italic => 3
  | underline => 4
  | blink => 5
  | blink2 => 6
  | reverse => 7
  | conceal => 8
  | strike => 9
  | underline2 => 21
  | frame => 51
  | encircle => 52
  | overline => 53

def shortNames : List (String × Attribute) :=
  [("d", dim), ("b", bold), ("i", italic), ("u", underline), ("r", reverse), ("c", conceal),
    ("s", strike), ("uu", underline2), ("o", overline)]

def ofName? (name : String) : Option Attribute :=
  (all.find? (·.name == name)).or (shortNames.lookup name)

end Attribute

/-- A color by name; `index` is its place among the sixteen colors of a plain terminal, and the
color that the terminal has anyway has none. -/
structure Color where
  name : String
  index : Option Nat
  deriving DecidableEq, Repr

namespace Color

def argument? (function : String) (word : List Char) : Option (List Char) :=
  let start := (function ++ "(").toList
  if start.isPrefixOf word && word.getLast? == some ')' then
    some ((word.drop start.length).dropLast)
  else none

def hexMix? : List Char → Option Palette.Mix
  | ['#', a, b, c, d, e, f] => do
    return ⟨← Text.readHex [a, b], ← Text.readHex [c, d], ← Text.readHex [e, f]⟩
  | _ => none

inductive Fault where
  | empty
  | tooManyDigits (count : Nat)
  deriving DecidableEq, Repr

def Fault.message : Fault → String
  | .empty => "invalid literal for int() with base 10: ''"
  | .tooManyDigits count => (Numeral.Unreadable.tooManyDigits count).message []

def part (digits : List Char) : Except Fault Nat :=
  if digits.isEmpty then .error .empty
  else if digits.length > Numeral.digitLimit then .error (.tooManyDigits digits.length)
  else .ok (digits.foldl (fun n c => 10 * n + (Text.digitValue? c).getD 0) 0)

/-- The color `rgb(r,g,b)`.  Three parts are read as numbers before it is known that each has
digits. -/
def rgbMix? (word : List Char) : Except Fault (Option Palette.Mix) :=
  match argument? "rgb" word with
  | none => .ok none
  | some inner =>
    if !inner.all fun c => c == ',' || (Text.digitValue? c).isSome then .ok none
    else match Text.pieces (· == ',') inner with
      | [r, g, b] => do
        let mix : Palette.Mix := ⟨← part r, ← part g, ← part b⟩
        return if mix.red ≤ 255 && mix.green ≤ 255 && mix.blue ≤ 255 then some mix else none
      | _ => .ok none

def numbered? (word : List Char) : Option Nat := do
  let digits ← argument? "color" word
  let n := Nat.ofDigitChars 10 digits 0
  if digits.length ≤ 3 && Numeral.isDigits digits && n ≤ 255 then some n else none

/-- The plain color that a name, a number or a mix comes nearest to. -/
def plainIndex? (word : String) : Except Fault (Option Nat) := do
  let indexed := (Palette.plainNames.idxOf? word).or
    (((Palette.names.lookup word).or (numbered? word.toList)).map Palette.plainOf)
  if indexed.isSome then return indexed
  else return ((hexMix? word.toList).or (← rgbMix? word.toList)).map Palette.nearest

def ofName? (word : String) : Except Fault (Option Color) := do
  let name := Text.lower word
  if name == "default" then return some ⟨name, none⟩
  else return (← plainIndex? name).map fun n => ⟨name, some n⟩

def code (behind : Bool) (c : Color) : List Nat :=
  let base := if behind then 40 else 30
  match c.index with
  | some n => if n < 8 then [base + n] else [base + 52 + n]
  | none => [base + 9]

end Color

/-- What a style sets; what it does not set shows through from below. -/
structure Style where
  attributes : List (Attribute × Bool) := []
  color : Option Color := none
  background : Option Color := none
  link : Option String := none
  deriving DecidableEq, Repr

namespace Style

def plain : Style := {}

def isPlain (s : Style) : Bool := s == plain

def above (upper lower : Style) : Style :=
  { attributes := Attribute.all.filterMap fun a =>
      ((upper.attributes.lookup a).or (lower.attributes.lookup a)).map (a, ·)
    color := upper.color.or lower.color
    background := upper.background.or lower.background
    link := upper.link.or lower.link }

def withoutColor (s : Style) : Style :=
  { s with color := none, background := none }

def setAttribute (s : Style) (a : Attribute) (on : Bool) : Style :=
  above { attributes := [(a, on)] } s

/-- Reads the words of a style; `none` if one of them means nothing. -/
def ofWords (s : Style) : List String → Except Color.Fault (Option Style)
  | [] => .ok (some s)
  | word :: rest =>
    match Text.lower word, rest with
    | "on", [] => .ok none
    | "on", name :: rest => do
      match ← Color.ofName? name with
      | none => return none
      | some c => ofWords { s with background := some c } rest
    | "not", [] => .ok none
    | "not", name :: rest =>
      match Attribute.ofName? name with
      | none => .ok none
      | some a => ofWords (s.setAttribute a false) rest
    | "link", [] => .ok none
    | "link", url :: rest => ofWords { s with link := some url } rest
    | small, rest => do
      match Attribute.ofName? small with
      | some a => ofWords (s.setAttribute a true) rest
      | none =>
        match ← Color.ofName? small with
        | none => return none
        | some c => ofWords { s with color := some c } rest

def words (s : Style) : List String :=
  s.attributes.map (fun (a, on) => if on then a.name else s!"not {a.name}") ++
    (s.color.map (·.name)).toList ++
    (match s.background with
    | some c => ["on", c.name]
    | none => []) ++
    (match s.link with
    | some url => ["link", url]
    | none => [])

def name (s : Style) : String :=
  if s.isPlain then "none" else " ".intercalate s.words

def codes (s : Style) : List Nat :=
  (s.attributes.filter (·.2)).map (·.1.code) ++ (s.color.map (Color.code false)).getD [] ++
    (s.background.map (Color.code true)).getD []

def paint (s : Style) (text : List Char) : List Char :=
  if text.isEmpty || s.codes.isEmpty then text
  else
    '\x1b' :: '[' :: (";".intercalate (s.codes.map toString)).toList ++ 'm' :: text ++
      ['\x1b', '[', '0', 'm']

def bold : Style := { attributes := [(.bold, true)] }

def dim : Style := { attributes := [(.dim, true)] }

def colored (index : Nat) (s : Style) : Style :=
  { s with color := (Palette.plainNames[index]?).map fun name => ⟨name, some index⟩ }

end Style

namespace Theme

def ok : Style := Style.bold.colored 2

def error : Style := Style.bold.colored 1

def warning : Style := Style.bold.colored 3

def op : Style := Style.bold.colored 6

def key : Style := Style.dim

def id : Style := Style.bold.colored 4

def position : Style := Style.bold

def heading : Style := Style.plain.colored 5

def slow : Style := Style.plain.colored 3

/-- Switches attributes off and takes the colors that the terminal has anyway. -/
def reset : Style :=
  { attributes := [.bold, .dim, .italic, .underline, .blink, .blink2, .reverse, .conceal,
      .strike].map (·, false)
    color := some ⟨"default", none⟩
    background := some ⟨"default", none⟩ }

def named : List (String × Style) :=
  [("rover.ok", ok), ("rover.error", error), ("rover.warning", warning), ("rover.op", op),
    ("rover.key", key), ("rover.id", id), ("rover.position", position),
    ("rover.heading", heading), ("reset", reset), ("strong", Style.bold),
    ("code", { attributes := [(.bold, true), (.reverse, true)] }),
    ("emphasize", { attributes := [(.italic, true)] }),
    ("bright", { attributes := [(.dim, false)] })]

end Theme

end Plateau.Console

import Plateau.Check.Basic
import Plateau.Data.Value
import Plateau.Number.Binary64
import Plateau.Number.Numeral

namespace Plateau.Check

def isPadding (c : Char) : Bool :=
  let n := c.toNat
  (9 ≤ n && n ≤ 13) || n == 32 || n == 0x85 || n == 0xA0 || n == 0x1680 ||
    (0x2000 ≤ n && n ≤ 0x200A) || n == 0x2028 || n == 0x2029 || n == 0x202F || n == 0x205F ||
    n == 0x3000

def trimPadding (s : List Char) : List Char :=
  ((s.dropWhile isPadding).reverse.dropWhile isPadding).reverse

def truths : List String := ["1", "on", "t", "true", "y", "yes"]

def falsehoods : List String := ["0", "off", "f", "false", "n", "no"]

/-- Whole numbers from minus this one up to this one fit in 64 bits. -/
def wordBound : Int := 9223372036854775808

def wholeFloat? (x : Float) : Option Int :=
  match Binary64.ofFloat x with
  | .finite negative d =>
    let q := d.per 0
    if q.num % q.den == 0 then
      let n : Int := (q.num / q.den : Nat)
      let n := if negative then -n else n
      if -wordBound < n && n < wordBound then some n else none
    else none
  | _ => none

def boolOfInt (n : Int) : Check Bool :=
  if n == 0 then valid false
  else if n == 1 then valid true
  else fault .boolParsing

def bool : Value → Check Bool
  | .bool b => valid b
  | .text s =>
    let small := String.ofList (s.toList.map Char.toLower)
    if truths.contains small then valid true
    else if falsehoods.contains small then valid false
    else fault .boolParsing
  | .int n => if -wordBound ≤ n && n < wordBound then boolOfInt n else fault .boolType
  | .float x =>
    match wholeFloat? x with
    | some n => boolOfInt n
    | none => fault .boolType
  | _ => fault .boolType

/-- A number as a document writes it: `-?(0|[1-9][0-9]*)`. -/
def canonicalInt (s : List Char) : Except Problem Int :=
  let (negative, digits) := match s with
    | '-' :: t => (true, t)
    | t => (false, t)
  if !Numeral.isDigits digits || (digits.length > 1 && digits.head? == some '0') then
    .error .intParsing
  else if s.length > Numeral.digitLimit then .error .intParsingSize
  else
    let n : Int := Nat.ofDigitChars 10 digits 0
    .ok (if negative then -n else n)

/-- Drops zeros, and underscores among them, in front of a number; `last` is the zero before. -/
def dropZerosAfter (last : Char) : List Char → Option (List Char)
  | [] => some [last]
  | c :: s =>
    if c == '0' || c == '_' then dropZerosAfter c s
    else if c.isDigit then some (c :: s)
    else if c == '.' then some (last :: c :: s)
    else none

def dropZeros : List Char → Option (List Char)
  | [] => none
  | c :: s =>
    if c == '0' then dropZerosAfter c s
    else if c.isDigit || c == '-' then some (c :: s)
    else none

def dropZeroFraction (s : List Char) : List Char :=
  match s.dropWhile (· != '.') with
  | [] => s
  | _ :: fraction => if fraction.all (· == '0') then s.takeWhile (· != '.') else s

def singleUnderscores : List Char → Bool
  | [] => true
  | ['_'] => false
  | '_' :: '_' :: _ => false
  | _ :: s => singleUnderscores s

def dropUnderscores (s : List Char) : List Char :=
  if s.head? != some '_' && singleUnderscores s then s.filter (· != '_') else s

/-- Brings a number with white space, a plus, zeros in front, a fraction of zeros or underscores
into canonical form. -/
def cleanInt (s : List Char) : Option (List Char) :=
  let t := trimPadding s
  let unsigned := match t with
    | '+' :: '-' :: _ => none
    | '+' :: t => some t
    | t => some t
  unsigned.bind fun t => (dropZeros t).map fun t => dropUnderscores (dropZeroFraction t)

def intOfText (s : List Char) : Except Problem Int :=
  match canonicalInt s with
  | .ok n => .ok n
  | .error .intParsingSize => .error .intParsingSize
  | .error _ =>
    match cleanInt s with
    | some t => (canonicalInt t).mapError fun _ => .intParsing
    | none => .error .intParsing

def int : Value → Check Int
  | .int n => valid n
  | .bool b => valid (if b then 1 else 0)
  | .text s =>
    match intOfText s.toList with
    | .ok n => valid n
    | .error p => fault p
  | .float x =>
    match Binary64.ofFloat x with
    | .finite _ d =>
      let q := d.per 0
      match wholeFloat? x with
      | some n => valid n
      | none => if q.num % q.den == 0 then fault .intParsingSize else fault .intFromFloat
    | _ => fault .finiteNumber
  | _ => fault .intType

def text : Value → Check String
  | .text s => valid s
  | _ => fault .stringType

def intAtLeast (least : Int) (v : Value) : Check Int :=
  (int v).andThen fun n => if least ≤ n then valid n else fault (.belowMinimum least)

def optional {α : Type} (check : Value → Check α) : Value → Check (Option α)
  | .null => valid none
  | v => some <$> check v

def items {α : Type} (check : Value → Check α) (index : Nat) : List Value → Check (List α)
  | [] => valid []
  | v :: vs => List.cons <$> (check v).within (toString index) <*> items check (index + 1) vs

def list {α : Type} (check : Value → Check α) : Value → Check (List α)
  | .list vs => items check 0 vs
  | _ => fault .listType

def required {α : Type} (name : String) (check : Value → Check α) (fields : Fields) : Check α :=
  (match fields.get? name with
  | some v => check v
  | none => fault .missing).within name

def defaulted {α : Type} (name : String) (default : α) (check : Value → Check α)
    (fields : Fields) : Check α :=
  match fields.get? name with
  | some v => (check v).within name
  | none => valid default

def record (expected : Expected) : Value → Check Fields
  | .record fs => valid fs
  | _ => fault (.modelType expected)

end Plateau.Check

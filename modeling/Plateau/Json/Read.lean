import Plateau.Data.Value
import Plateau.Number.Binary64
import Plateau.Number.Numeral
import Plateau.Text.Hex

namespace Plateau.Json

open Text (readHex)

def skipSpace (s : List Char) : List Char :=
  s.dropWhile fun c => c == ' ' || c == '\t' || c == '\n' || c == '\r'

def unescape? : Char → Option Char
  | '"' => some '"'
  | '\\' => some '\\'
  | '/' => some '/'
  | 'b' => some '\x08'
  | 'f' => some '\x0c'
  | 'n' => some '\n'
  | 'r' => some '\r'
  | 't' => some '\t'
  | _ => none

def isHighUnit (n : Nat) : Bool := 0xD800 ≤ n && n < 0xDC00

def isLowUnit (n : Nat) : Bool := 0xDC00 ≤ n && n < 0xE000

def readText : List Char → Option (List Char × List Char)
  | [] => none
  | c :: s =>
    if c == '"' then some ([], s)
    else if c == '\\' then
      match s with
      | 'u' :: a :: b :: c :: d :: t =>
        match readHex [a, b, c, d] with
        | none => none
        | some n =>
          if isHighUnit n then
            match t with
            | '\\' :: 'u' :: e :: f :: g :: h :: t' =>
              match readHex [e, f, g, h] with
              | none => none
              | some m =>
                if isLowUnit m then
                  (readText t').map fun (cs, rest) =>
                    (Char.ofNat (0x10000 + (n - 0xD800) * 0x400 + (m - 0xDC00)) :: cs, rest)
                else none
            | _ => none
          else if isLowUnit n then none
          else (readText t).map fun (cs, rest) => (Char.ofNat n :: cs, rest)
      | e :: t =>
        match unescape? e with
        | none => none
        | some d => (readText t).map fun (cs, rest) => (d :: cs, rest)
      | [] => none
    else if c.toNat < 32 then none
    else (readText s).map fun (cs, rest) => (c :: cs, rest)

def readFraction : List Char → Option (List Char × List Char)
  | '.' :: s =>
    let digits := s.takeWhile Char.isDigit
    if digits.isEmpty then none else some (digits, s.dropWhile Char.isDigit)
  | s => some ([], s)

def readExponent : List Char → Option (Option Int × List Char)
  | c :: s =>
    if c == 'e' || c == 'E' then
      let (sign, t) := Numeral.splitSign s
      let digits := t.takeWhile Char.isDigit
      if digits.isEmpty then none
      else
        let n : Int := Nat.ofDigitChars 10 digits 0
        some (some (if sign == some '-' then -n else n), t.dropWhile Char.isDigit)
    else some (none, c :: s)
  | [] => some (none, [])

def readMagnitude (negative : Bool) (s : List Char) : Option (Value × List Char) := do
  let whole := s.takeWhile Char.isDigit
  if whole.isEmpty || (whole.length > 1 && whole.head? == some '0') then none
  else
    let (fraction, s) ← readFraction (s.dropWhile Char.isDigit)
    let (exponent, s) ← readExponent s
    if fraction.isEmpty && exponent.isNone then
      if whole.length > Numeral.digitLimit then none
      else
        let n : Int := Nat.ofDigitChars 10 whole 0
        some (.int (if negative then -n else n), s)
    else
      let x := decimalFloat (Nat.ofDigitChars 10 (whole ++ fraction) 0)
        (exponent.getD 0 - fraction.length)
      some (.float (if negative then -x else x), s)

def infinity : Float := 1.0 / 0.0

def readNumber : List Char → Option (Value × List Char)
  | '-' :: 'I' :: 'n' :: 'f' :: 'i' :: 'n' :: 'i' :: 't' :: 'y' :: s => some (.float (-infinity), s)
  | '-' :: s => readMagnitude true s
  | s => readMagnitude false s

mutual

/-- A value and what follows it; `fuel` bounds the steps. -/
def readValue (fuel : Nat) (s : List Char) : Option (Value × List Char) :=
  match fuel with
  | 0 => none
  | fuel + 1 =>
    match skipSpace s with
    | 'n' :: 'u' :: 'l' :: 'l' :: t => some (.null, t)
    | 't' :: 'r' :: 'u' :: 'e' :: t => some (.bool true, t)
    | 'f' :: 'a' :: 'l' :: 's' :: 'e' :: t => some (.bool false, t)
    | 'N' :: 'a' :: 'N' :: t => some (.float (0.0 / 0.0), t)
    | 'I' :: 'n' :: 'f' :: 'i' :: 'n' :: 'i' :: 't' :: 'y' :: t => some (.float infinity, t)
    | '"' :: t => (readText t).map fun (cs, rest) => (.text (String.ofList cs), rest)
    | '[' :: t =>
      match skipSpace t with
      | ']' :: t => some (.list [], t)
      | t => (readItems fuel t).map fun (vs, rest) => (.list vs, rest)
    | '{' :: t =>
      match skipSpace t with
      | '}' :: t => some (.record [], t)
      | t => (readFields fuel t).map fun (fs, rest) => (.record (Fields.ofPairs fs), rest)
    | t => readNumber t

def readItems (fuel : Nat) (s : List Char) : Option (List Value × List Char) :=
  match fuel with
  | 0 => none
  | fuel + 1 => do
    let (v, s) ← readValue fuel s
    match skipSpace s with
    | ',' :: t => (readItems fuel t).map fun (vs, rest) => (v :: vs, rest)
    | ']' :: t => some ([v], t)
    | _ => none

def readFields (fuel : Nat) (s : List Char) : Option (Fields × List Char) :=
  match fuel with
  | 0 => none
  | fuel + 1 =>
    match skipSpace s with
    | '"' :: t => do
      let (key, s) ← readText t
      match skipSpace s with
      | ':' :: t => do
        let (v, s) ← readValue fuel t
        match skipSpace s with
        | ',' :: t =>
          (readFields fuel t).map fun (fs, rest) => ((String.ofList key, v) :: fs, rest)
        | '}' :: t => some ([(String.ofList key, v)], t)
        | _ => none
      | _ => none
    | _ => none

end

def read? (text : String) : Option Value :=
  let s := text.toList
  match readValue (2 * s.length + 2) s with
  | some (v, rest) => if (skipSpace rest).isEmpty then some v else none
  | none => none

end Plateau.Json

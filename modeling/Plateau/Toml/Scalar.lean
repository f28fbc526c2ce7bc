import Plateau.Data.Value
import Plateau.Number.Binary64
import Plateau.Number.Numeral
import Plateau.Toml.Scan

namespace Plateau.Toml

/-- Digits with single underscores between them: the digits, and what follows. -/
def digitsWith (isDigit : Char → Bool) : List Char → List Char × List Char
  | [] => ([], [])
  | [c] => if isDigit c then ([c], []) else ([], [c])
  | c :: d :: s =>
    if isDigit c then
      if d == '_' then
        match s with
        | e :: _ =>
          if isDigit e then
            let (digits, rest) := digitsWith isDigit s
            (c :: digits, rest)
          else ([c], d :: s)
        | [] => ([c], d :: s)
      else
        let (digits, rest) := digitsWith isDigit (d :: s)
        (c :: digits, rest)
    else ([], c :: d :: s)

def valueIn (base : Nat) (digits : List Char) : Int :=
  (digits.foldl (fun n c => base * n + (Text.hexValue c).getD 0) 0 : Nat)

def baseOf? : Char → Option (Nat × (Char → Bool))
  | 'x' => some (16, fun c => (Text.hexValue c).isSome)
  | 'b' => some (2, fun c => c == '0' || c == '1')
  | 'o' => some (8, fun c => '0' ≤ c && c ≤ '7')
  | _ => none

def basedInt? : List Char → Option (Value × List Char)
  | '0' :: letter :: s => do
    let (base, isDigit) ← baseOf? letter
    let (digits, rest) := digitsWith isDigit s
    if digits.isEmpty then none else some (.int (valueIn base digits), rest)
  | _ => none

/-- The whole part of a decimal number: a zero, or digits that do not begin with one. -/
def wholeDigits (s : List Char) : List Char × List Char :=
  match s with
  | '0' :: rest => (['0'], rest)
  | s => digitsWith Char.isDigit s

def fractionDigits : List Char → List Char × List Char
  | '.' :: s =>
    let (digits, rest) := digitsWith Char.isDigit s
    if digits.isEmpty then ([], '.' :: s) else (digits, rest)
  | s => ([], s)

def exponentPart : List Char → Option Int × List Char
  | [] => (none, [])
  | c :: s =>
    if c == 'e' || c == 'E' then
      let (sign, t) := Numeral.splitSign s
      let (digits, rest) := digitsWith Char.isDigit t
      if digits.isEmpty then (none, c :: s)
      else
        let n := valueIn 10 digits
        (some (if sign == some '-' then -n else n), rest)
    else (none, c :: s)

def decimal? (s : List Char) : Option (Except Nat Value × List Char) :=
  let (sign, unsigned) := Numeral.splitSign s
  let negative := sign == some '-'
  let (whole, rest) := wholeDigits unsigned
  if whole.isEmpty then none
  else
    let (fraction, rest) := fractionDigits rest
    let (exponent, rest) := exponentPart rest
    if fraction.isEmpty && exponent.isNone then
      let n := valueIn 10 whole
      if whole.length > Numeral.digitLimit then some (.error whole.length, rest)
      else some (.ok (.int (if negative then -n else n)), rest)
    else
      let x := decimalFloat (Nat.ofDigitChars 10 (whole ++ fraction) 0)
        (exponent.getD 0 - fraction.length)
      some (.ok (.float (if negative then -x else x)), rest)

def field (digits lo hi : Nat) (s : List Char) : Option (Nat × List Char) :=
  let code := s.take digits
  let n := Nat.ofDigitChars 10 code 0
  if code.length == digits && code.all Char.isDigit && lo ≤ n && n ≤ hi then
    some (n, s.drop digits)
  else none

def expect (c : Char) : List Char → Option (List Char)
  | d :: s => if c == d then some s else none
  | [] => none

def timeOfDay? (s : List Char) : Option (List Char) := do
  let (_, s) ← field 2 0 23 s
  let s ← expect ':' s
  let (_, s) ← field 2 0 59 s
  let s ← expect ':' s
  let (_, s) ← field 2 0 59 s
  match s with
  | '.' :: t =>
    if (t.takeWhile Char.isDigit).isEmpty then some s else some (t.dropWhile Char.isDigit)
  | s => some s

def skipOffset (s : List Char) : List Char :=
  match s with
  | [] => []
  | c :: t =>
    if c == 'Z' || c == 'z' then t
    else if c == '+' || c == '-' then
      ((do
        let (_, t) ← field 2 0 23 t
        let t ← expect ':' t
        let (_, t) ← field 2 0 59 t
        some t) : Option (List Char)).getD s
    else s

structure Date where
  year : Nat
  month : Nat
  day : Nat

def isLeap (year : Nat) : Bool :=
  year % 4 == 0 && (year % 100 != 0 || year % 400 == 0)

def Date.exists? (d : Date) : Bool :=
  let days :=
    if d.month == 2 then if isLeap d.year then 29 else 28
    else if [4, 6, 9, 11].contains d.month then 30
    else 31
  1 ≤ d.year && d.day ≤ days

def date? (s : List Char) : Option (Date × List Char) := do
  let (year, s) ← field 4 0 9999 s
  let s ← expect '-' s
  let (month, s) ← field 2 1 12 s
  let s ← expect '-' s
  let (day, s) ← field 2 1 31 s
  some (⟨year, month, day⟩, s)

def skipTime (s : List Char) : List Char :=
  match s with
  | [] => []
  | c :: t =>
    if c == 'T' || c == 't' || c == ' ' then ((timeOfDay? t).map skipOffset).getD s else s

def consumed (s rest : List Char) : String :=
  String.ofList (s.take (s.length - rest.length))

def moment? (s : List Char) : Option (Except Problem Value × List Char) :=
  match date? s with
  | some (d, rest) =>
    let rest := skipTime rest
    some (if d.exists? then .ok (.moment (consumed s rest)) else .error .invalidDate, rest)
  | none => (timeOfDay? s).map fun rest => (.ok (.moment (consumed s rest)), rest)

def notANumber : Float := 0.0 / 0.0

def infinity : Float := 1.0 / 0.0

def special? : List Char → Option (Value × List Char)
  | 'i' :: 'n' :: 'f' :: s => some (.float infinity, s)
  | '+' :: 'i' :: 'n' :: 'f' :: s => some (.float infinity, s)
  | '-' :: 'i' :: 'n' :: 'f' :: s => some (.float (-infinity), s)
  | 'n' :: 'a' :: 'n' :: s => some (.float notANumber, s)
  | '+' :: 'n' :: 'a' :: 'n' :: s => some (.float notANumber, s)
  | '-' :: 'n' :: 'a' :: 'n' :: s => some (.float notANumber, s)
  | _ => none

def scalar : Step Value := fun s =>
  match s with
  | 't' :: 'r' :: 'u' :: 'e' :: rest => .ok (.bool true, rest)
  | 'f' :: 'a' :: 'l' :: 's' :: 'e' :: rest => .ok (.bool false, rest)
  | s =>
    match moment? s with
    | some (.ok v, rest) => .ok (v, rest)
    | some (.error p, _) => faultAt p s
    | none =>
      match basedInt? s with
      | some found => .ok found
      | none =>
        match decimal? s with
        | some (.ok v, rest) => .ok (v, rest)
        | some (.error digits, _) => faultAt (.tooManyDigits digits) s
        | none =>
          match special? s with
          | some found => .ok found
          | none => faultAt .invalidValue s

end Plateau.Toml

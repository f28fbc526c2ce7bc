import Plateau.Data.Show

namespace Plateau.Log.Percent

structure Conversion where
  leftAlign : Bool := false
  zeros : Bool := false
  plus : Bool := false
  blank : Bool := false
  width : Option Nat := none
  precision : Option Nat := none
  kind : Char := 's'

inductive Piece where
  | text (c : Char)
  | show (conversion : Conversion)

def piecesFrom (conversion : Option Conversion) : List Char → Option (List Piece)
  | [] => if conversion.isNone then some [] else none
  | c :: s =>
    match conversion with
    | none =>
      if c == '%' then piecesFrom (some {}) s
      else (piecesFrom none s).map (.text c :: ·)
    | some v =>
      let digit := c.toNat - 48
      if c.isDigit && v.precision.isSome then
        piecesFrom (some { v with precision := v.precision.map (10 * · + digit) }) s
      else if c.isDigit && (v.width.isSome || c != '0') then
        piecesFrom (some { v with width := some (10 * v.width.getD 0 + digit) }) s
      else if c == '.' && v.precision.isNone then
        piecesFrom (some { v with precision := some 0 }) s
      else if v.width.isNone && v.precision.isNone && c == '0' then
        piecesFrom (some { v with zeros := true }) s
      else if v.width.isNone && v.precision.isNone && c == '-' then
        piecesFrom (some { v with leftAlign := true }) s
      else if v.width.isNone && v.precision.isNone && c == '+' then
        piecesFrom (some { v with plus := true }) s
      else if v.width.isNone && v.precision.isNone && c == ' ' then
        piecesFrom (some { v with blank := true }) s
      else if c == '%' then (piecesFrom none s).map (.text '%' :: ·)
      else (piecesFrom none s).map (.show { v with kind := c } :: ·)

namespace Conversion

/-- Fills a shown argument up to the width; zeros go between the sign and the digits. -/
def pad (v : Conversion) (sign body : List Char) : List Char :=
  let missing := v.width.getD 0 - (sign.length + body.length)
  if v.leftAlign then sign ++ body ++ List.replicate missing ' '
  else if v.zeros then sign ++ List.replicate missing '0' ++ body
  else List.replicate missing ' ' ++ sign ++ body

def text (v : Conversion) (s : List Char) : List Char :=
  { v with zeros := false }.pad [] (match v.precision with
    | some n => s.take n
    | none => s)

def sign (v : Conversion) (negative : Bool) : List Char :=
  if negative then ['-'] else if v.plus then ['+'] else if v.blank then [' '] else []

def number (v : Conversion) (n : Int) : List Char :=
  let digits := Nat.toDigits 10 n.natAbs
  v.pad (v.sign (n < 0)) (List.replicate (v.precision.getD 1 - digits.length) '0' ++ digits)

def fixed (v : Conversion) (x : Float) : List Char :=
  let s := (fixedPlaces (v.precision.getD 6) x).toList
  match s with
  | '-' :: body => v.pad (v.sign true) body
  | body => v.pad (v.sign false) body

/-- The whole number that an argument of a number conversion stands for. -/
def whole? : Value → Option Int
  | .int n => some n
  | .bool b => some (if b then 1 else 0)
  | .float x =>
    match Binary64.ofFloat x with
    | .finite negative d =>
      let q := d.per 0
      let n : Int := (q.num / q.den : Nat)
      some (if negative then -n else n)
    | _ => none
  | _ => none

def double? : Value → Option Float
  | .float x => some x
  | .int n => some (if n < 0 then -decimalFloat n.natAbs 0 else decimalFloat n.natAbs 0)
  | .bool b => some (if b then 1.0 else 0.0)
  | _ => none

def apply (v : Conversion) (argument : Value) : Option (List Char) :=
  match v.kind with
  | 's' => some (v.text argument.plain)
  | 'r' => some (v.text argument.literal)
  | 'd' | 'i' | 'u' => (whole? argument).map v.number
  | 'f' | 'F' => (double? argument).map v.fixed
  | _ => none

end Conversion

def fill : List Piece → List Value → Option (List Char)
  | [], [] => some []
  | [], _ => none
  | .text c :: pieces, arguments => (fill pieces arguments).map (c :: ·)
  | .show _ :: _, [] => none
  | .show v :: pieces, a :: arguments => do
    let shown ← v.apply a
    let rest ← fill pieces arguments
    return shown ++ rest

def format (s : String) (arguments : List Value) : Option String :=
  if arguments.isEmpty then some s
  else do
    let pieces ← piecesFrom none s.toList
    let filled ← fill pieces arguments
    return String.ofList filled

end Plateau.Log.Percent

import Plateau.Number.Shortest

namespace Plateau

/-- How shortest digits are laid out: positionally for points from `lowPoint` to `highPoint`, with
an exponent otherwise. -/
structure FloatLayout where
  lowPoint : Int
  highPoint : Int
  exponentPlus : Bool
  exponentWidth : Nat
  nan : String
  infinity : String
  negInfinity : String

def FloatLayout.plain : FloatLayout :=
  ⟨-3, 16, true, 2, "nan", "inf", "-inf"⟩

/-- The layout of numbers in a result document, which has no word for what is not finite. -/
def FloatLayout.document : FloatLayout :=
  ⟨-4, 16, false, 1, "null", "null", "null"⟩

def FloatLayout.log : FloatLayout :=
  ⟨-3, 16, true, 2, "NaN", "Infinity", "-Infinity"⟩

/-- `0.d₁d₂… * 10 ^ point` without an exponent, and with a digit on either side of the point. -/
def Decimal.positional (d : Decimal) : List Char :=
  let whole := d.digits.length
  if d.point ≤ 0 then ['0', '.'] ++ List.replicate (-d.point).toNat '0' ++ d.digits
  else if d.point.toNat < whole then
    d.digits.take d.point.toNat ++ '.' :: d.digits.drop d.point.toNat
  else d.digits ++ List.replicate (d.point.toNat - whole) '0' ++ ['.', '0']

def Decimal.scientific (layout : FloatLayout) (d : Decimal) : List Char :=
  let exponent := d.point - 1
  let digits := Nat.toDigits 10 exponent.natAbs
  let sign := if exponent < 0 then ['-'] else if layout.exponentPlus then ['+'] else []
  let tail := if d.digits.length ≤ 1 then [] else '.' :: d.digits.drop 1
  d.digits.take 1 ++ tail ++ 'e' :: sign ++
    List.replicate (layout.exponentWidth - digits.length) '0' ++ digits

def FloatLayout.write (layout : FloatLayout) (x : Float) : String :=
  match Binary64.ofFloat x with
  | .nan => layout.nan
  | .infinite negative => if negative then layout.negInfinity else layout.infinity
  | .finite negative magnitude =>
    let d := magnitude.shortest
    let body :=
      if layout.lowPoint ≤ d.point && d.point ≤ layout.highPoint then d.positional
      else d.scientific layout
    String.ofList (if negative then '-' :: body else body)

/-- Rounded to `places` places; a half goes to the even neighbour. -/
def fixedPlaces (places : Nat) (x : Float) : String :=
  match Binary64.ofFloat x with
  | .nan => "nan"
  | .infinite negative => if negative then "-inf" else "inf"
  | .finite negative magnitude =>
    let digits := Nat.toDigits 10 (magnitude.per (-places)).round
    let padded := List.replicate (places + 1 - digits.length) '0' ++ digits
    let whole := padded.take (padded.length - places)
    let body := if places == 0 then whole else whole ++ '.' :: padded.drop (padded.length - places)
    String.ofList (if negative then '-' :: body else body)

def roundPlaces (places : Nat) (x : Float) : Float :=
  match Binary64.ofFloat x with
  | .finite negative magnitude =>
    let y := decimalFloat (magnitude.per (-places)).round (-places)
    if negative then -y else y
  | _ => x

end Plateau

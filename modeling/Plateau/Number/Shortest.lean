import Plateau.Number.Binary64

namespace Plateau

/-- The number `0.d₁d₂… * 10 ^ point`. -/
structure Decimal where
  digits : List Char
  point : Int
  deriving DecidableEq, Repr

def Decimal.ofGrid (count : Nat) (unit : Int) : Decimal :=
  let digits := Nat.toDigits 10 count
  { digits := (digits.reverse.dropWhile (· == '0')).reverse
    point := digits.length + unit }

/-- The numbers that round to a double, in quarters of its last place. -/
structure Interval where
  lo : Nat
  mid : Nat
  hi : Nat
  exponent : Int
  closed : Bool

/-- Half of the last place to either side, and a quarter below a power of two. -/
def Dyadic.interval (d : Dyadic) : Interval :=
  let atBinade := d.mantissa == Nat.pow 2 52 && d.exponent > -1074
  { lo := 4 * d.mantissa - (if atBinade then 1 else 2)
    mid := 4 * d.mantissa
    hi := 4 * d.mantissa + 2
    exponent := d.exponent - 2
    closed := d.mantissa % 2 == 0 }

/-- The point of the grid `10 ^ unit` that lies in the interval and nearest to its middle. -/
def Interval.gridPoint? (i : Interval) (unit : Int) : Option Nat :=
  let scale := (Dyadic.mk 1 i.exponent).per unit
  let inside (n : Nat) : Bool :=
    if i.closed then i.lo * scale.num ≤ n * scale.den && n * scale.den ≤ i.hi * scale.num
    else i.lo * scale.num < n * scale.den && n * scale.den < i.hi * scale.num
  let below := i.mid * scale.num / scale.den
  let rest := 2 * (i.mid * scale.num % scale.den)
  match inside below, inside (below + 1) with
  | false, false => none
  | true, false => some below
  | false, true => some (below + 1)
  | true, true =>
    if rest < scale.den || (rest == scale.den && below % 2 == 0) then some below
    else some (below + 1)

def Dyadic.decimalExponent (d : Dyadic) : Int :=
  let q := d.per 0
  if q.den ≤ q.num then (Nat.toDigits 10 (q.num / q.den)).length
  else 1 - ((Nat.toDigits 10 (q.den / q.num)).length : Int)

/-- Tries grids of more and more digits; `tries` bounds their number. -/
def Interval.shortestFrom (i : Interval) (tries : Nat) (unit : Int) : Decimal :=
  match tries with
  | 0 => .ofGrid ((Dyadic.mk i.mid i.exponent).per unit).round unit
  | tries + 1 =>
    match i.gridPoint? unit with
    | some n => .ofGrid n unit
    | none => i.shortestFrom tries (unit - 1)

/-- Seventeen digits always suffice. -/
def Dyadic.shortest (d : Dyadic) : Decimal :=
  if d.mantissa == 0 then ⟨['0'], 1⟩
  else d.interval.shortestFrom 17 (d.decimalExponent - 1)

end Plateau

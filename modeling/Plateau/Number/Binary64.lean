namespace Plateau

structure Dyadic where
  mantissa : Nat
  exponent : Int
  deriving DecidableEq, Repr

inductive Binary64 where
  | nan
  | infinite (negative : Bool)
  | finite (negative : Bool) (magnitude : Dyadic)
  deriving DecidableEq, Repr

namespace Binary64

def ofBits (bits : Nat) : Binary64 :=
  let negative := bits / Nat.pow 2 63 == 1
  let exponent : Nat := bits / Nat.pow 2 52 % Nat.pow 2 11
  let fraction : Nat := bits % Nat.pow 2 52
  if exponent == 2047 then if fraction == 0 then .infinite negative else .nan
  else if exponent == 0 then .finite negative ⟨fraction, -1074⟩
  else .finite negative ⟨Nat.pow 2 52 + fraction, Int.ofNat exponent - 1075⟩

def ofFloat (x : Float) : Binary64 :=
  ofBits x.toBits.toNat

end Binary64

structure Quotient where
  num : Nat
  den : Nat

/-- The magnitude in units of `10 ^ unit`. -/
def Dyadic.per (d : Dyadic) (unit : Int) : Quotient :=
  { num := d.mantissa * Nat.pow 2 d.exponent.toNat * Nat.pow 10 (-unit).toNat
    den := Nat.pow 2 (-d.exponent).toNat * Nat.pow 10 unit.toNat }

/-- The nearest whole number; a half goes to the even neighbour. -/
def Quotient.round (q : Quotient) : Nat :=
  let below := q.num / q.den
  let rest := 2 * (q.num % q.den)
  if rest < q.den || (rest == q.den && below % 2 == 0) then below else below + 1

def decimalFloat (mantissa : Nat) (exponent : Int) : Float :=
  let magnitude := (Nat.toDigits 10 mantissa).length + exponent
  if mantissa == 0 || magnitude < -400 then 0.0
  else if magnitude > 400 then 1.0 / 0.0
  else if exponent < 0 then Float.ofScientific mantissa true (-exponent).toNat
  else Float.ofScientific mantissa false exponent.toNat

end Plateau

import Plateau.Text.Hex

namespace Plateau.Text.Utf8

inductive Reason where
  | badStart
  | badContinuation
  | unfinished
  deriving DecidableEq, Repr

/-- `count` octets from position `start` on are no character; `first` is the first of them. -/
structure Fault where
  start : Nat
  count : Nat
  first : Nat
  reason : Reason
  deriving DecidableEq, Repr

/-- A character that has begun: `owed` further octets are due, the next one from `lo` to `hi`. -/
structure Pending where
  start : Nat
  first : Nat
  seen : Nat
  owed : Nat
  lo : Nat
  hi : Nat
  value : Nat

def begin? (start b : Nat) : Option Pending :=
  let more (owed lo hi value : Nat) := some ⟨start, b, 1, owed, lo, hi, value⟩
  if 0xC2 ≤ b && b ≤ 0xDF then more 1 0x80 0xBF (b - 0xC0)
  else if b == 0xE0 then more 2 0xA0 0xBF 0
  else if b == 0xED then more 2 0x80 0x9F 0xD
  else if 0xE1 ≤ b && b ≤ 0xEF then more 2 0x80 0xBF (b - 0xE0)
  else if b == 0xF0 then more 3 0x90 0xBF 0
  else if 0xF1 ≤ b && b ≤ 0xF3 then more 3 0x80 0xBF (b - 0xF0)
  else if b == 0xF4 then more 3 0x80 0x8F 4
  else none

def decodeFrom (position : Nat) (pending : Option Pending) :
    List UInt8 → Except Fault (List Char)
  | [] =>
    match pending with
    | none => .ok []
    | some p => .error ⟨p.start, p.seen, p.first, .unfinished⟩
  | octet :: rest =>
    let b := octet.toNat
    match pending with
    | none =>
      if b < 0x80 then (Char.ofNat b :: ·) <$> decodeFrom (position + 1) none rest
      else match begin? position b with
        | some p => decodeFrom (position + 1) (some p) rest
        | none => .error ⟨position, 1, b, .badStart⟩
    | some p =>
      if b < p.lo || p.hi < b then .error ⟨p.start, p.seen, p.first, .badContinuation⟩
      else
        let value := 64 * p.value + (b - 0x80)
        if p.owed ≤ 1 then (Char.ofNat value :: ·) <$> decodeFrom (position + 1) none rest
        else
          decodeFrom (position + 1)
            (some { p with seen := p.seen + 1, owed := p.owed - 1, lo := 0x80, hi := 0xBF, value })
            rest

def decode (octets : List UInt8) : Except Fault (List Char) :=
  decodeFrom 0 none octets

def Reason.text : Reason → String
  | .badStart => "invalid start byte"
  | .badContinuation => "invalid continuation byte"
  | .unfinished => "unexpected end of data"

def Fault.message (f : Fault) : String :=
  if f.count == 1 then
    s!"'utf-8' codec can't decode byte 0x{String.ofList (hex 2 f.first)} in position {f.start}: " ++
      f.reason.text
  else
    s!"'utf-8' codec can't decode bytes in position {f.start}-{f.start + f.count - 1}: " ++
      f.reason.text

end Plateau.Text.Utf8

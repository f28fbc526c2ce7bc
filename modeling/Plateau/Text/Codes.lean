namespace Plateau.Text

def isParameter (c : Char) : Bool :=
  c.isDigit || c == ';' || c == '?'

/-- Drops complete codes; `held` is what may be the beginning of one, the last character first. -/
def dropCodesAfter (held : List Char) : List Char → List Char
  | [] => held.reverse
  | c :: s =>
    if c == '\x1b' then held.reverse ++ dropCodesAfter [c] s
    else match held with
      | [] => c :: dropCodesAfter [] s
      | [_] =>
        if c == '[' then dropCodesAfter (c :: held) s
        else held.reverse ++ c :: dropCodesAfter [] s
      | _ =>
        if isParameter c then dropCodesAfter (c :: held) s
        else if c.isAlpha then dropCodesAfter [] s
        else held.reverse ++ c :: dropCodesAfter [] s

def dropCodes (s : List Char) : List Char :=
  dropCodesAfter [] s

theorem dropCodes_eq_self {s : List Char} (h : '\x1b' ∉ s) : dropCodes s = s := by
  unfold dropCodes
  induction s with
  | nil => simp [dropCodesAfter]
  | cons c s ih =>
    rw [List.mem_cons, not_or] at h
    rw [dropCodesAfter, if_neg (by simpa using Ne.symm h.1)]
    simp only [ih h.2]

end Plateau.Text

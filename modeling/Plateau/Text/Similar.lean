namespace Plateau.Text

def commonStart : List Char → List Char → Nat
  | c :: s, d :: t => if c == d then commonStart s t + 1 else 0
  | _, _ => 0

/-- The first longest run of `s` that stands at the start of some suffix of `t`, as its offset in
`t` and its length. -/
def longestAt (s : List Char) : List Char → Nat × Nat
  | [] => (0, 0)
  | d :: t =>
    let here := commonStart s (d :: t)
    let (at', later) := longestAt s t
    if later > here then (at' + 1, later) else (0, here)

/-- The longest common run of two texts, earliest in the first and then in the second: its offset in
either and its length. -/
def longestRun : List Char → List Char → Nat × Nat × Nat
  | [], _ => (0, 0, 0)
  | c :: s, t =>
    let (j, here) := longestAt (c :: s) t
    let (i, j', later) := longestRun s t
    if later > here then (i + 1, j', later) else (0, j, here)

def inCommon (fuel : Nat) (s t : List Char) : Nat :=
  match fuel with
  | 0 => 0
  | fuel + 1 =>
    let (i, j, n) := longestRun s t
    if n == 0 then 0
    else
      inCommon fuel (s.take i) (t.take j) + n + inCommon fuel (s.drop (i + n)) (t.drop (j + n))

structure Likeness where
  num : Nat
  den : Nat

def likeness (s t : List Char) : Likeness :=
  if s.length + t.length == 0 then ⟨1, 1⟩
  else ⟨2 * inCommon (s.length + 1) s t, s.length + t.length⟩

/-- More alike comes first; of two that are equally alike, the greater text. -/
def moreAlike (a b : Likeness × String) : Bool :=
  let l := a.1.num * b.1.den
  let r := b.1.num * a.1.den
  l > r || (l == r && b.2 ≤ a.2)

/-- At most three of `texts` that are alike to `word` by three fifths or more, the best first. -/
def closest (word : String) (texts : List String) : List String :=
  let rated := texts.map fun t => (likeness t.toList word.toList, t)
  let near := rated.filter fun (l, _) => 3 * l.den ≤ 5 * l.num
  ((near.mergeSort moreAlike).take 3).map (·.2)

end Plateau.Text

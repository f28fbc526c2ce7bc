namespace Plateau.Text

/-- The white space characters, the information separators U+001C to U+001F included. -/
def isBlank (c : Char) : Bool :=
  let n := c.toNat
  (9 ≤ n && n ≤ 13) || (28 ≤ n && n ≤ 32) || n == 0x85 || n == 0xA0 || n == 0x1680 ||
    (0x2000 ≤ n && n ≤ 0x200A) || n == 0x2028 || n == 0x2029 || n == 0x202F || n == 0x205F ||
    n == 0x3000

def trimEnd : List Char → List Char
  | [] => []
  | c :: s =>
    match trimEnd s with
    | [] => if isBlank c then [] else [c]
    | d :: t => c :: d :: t

def trim (s : List Char) : List Char :=
  trimEnd (s.dropWhile isBlank)

/-- Cuts a text at every character that satisfies `p`; `n` cuts give `n + 1` pieces. -/
def pieces (p : Char → Bool) : List Char → List (List Char)
  | [] => [[]]
  | c :: s =>
    if p c then [] :: pieces p s
    else match pieces p s with
      | [] => [[c]]
      | w :: ws => (c :: w) :: ws

def words (s : List Char) : List (List Char) :=
  (pieces isBlank s).filter (fun w => !w.isEmpty)

/-- The lines of a text; only a line feed ends a line. -/
def lines (s : List Char) : List (List Char) :=
  pieces (· == '\n') s

theorem pieces_ne_nil (p : Char → Bool) (s : List Char) : pieces p s ≠ [] := by
  cases s with
  | nil => simp [pieces]
  | cons c s =>
    unfold pieces
    split
    · simp
    · split <;> simp

theorem pieces_cons_of_neg {p : Char → Bool} {c : Char} (h : p c = false) (s : List Char) :
    ∃ w ws, pieces p s = w :: ws ∧ pieces p (c :: s) = (c :: w) :: ws := by
  cases hs : pieces p s with
  | nil => exact absurd hs (pieces_ne_nil p s)
  | cons w ws => exact ⟨w, ws, rfl, by simp [pieces, h, hs]⟩

theorem not_sep_of_mem_pieces {p : Char → Bool} {s w : List Char} (h : w ∈ pieces p s) :
    ∀ c ∈ w, p c = false := by
  induction s generalizing w with
  | nil => simp_all [pieces]
  | cons d s ih =>
    cases hd : p d with
    | true =>
      rw [pieces, if_pos hd] at h
      rcases List.mem_cons.1 h with rfl | h
      · simp
      · exact ih h
    | false =>
      obtain ⟨v, vs, hs, hc⟩ := pieces_cons_of_neg hd s
      rw [hc] at h
      rcases List.mem_cons.1 h with rfl | h
      · intro c hcm
        rcases List.mem_cons.1 hcm with rfl | hcm
        · exact hd
        · exact ih (hs ▸ List.mem_cons_self) c hcm
      · exact ih (hs ▸ List.mem_cons_of_mem _ h)

@[simp] theorem trimEnd_nil : trimEnd [] = [] := rfl

@[simp] theorem trim_nil : trim [] = [] := rfl

end Plateau.Text

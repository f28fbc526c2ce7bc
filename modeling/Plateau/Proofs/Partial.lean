import Plateau.Proofs.Journey

namespace Plateau

namespace Instructions

variable {surface : Surface}

theorem runFrom_cons_of_ok (hs : surface.Writable) {id : Nat} {i : Instruction} {t : Rover}
    (h : i.alone surface id = .ok t) (rest : List Instruction) :
    runFrom surface id (i :: rest) =
      (runFrom surface (id + 1) rest).map (Outcome.cons t.text) := by
  obtain ⟨placed, hrun⟩ := i.run_eq hs id
  rw [runFrom, hrun, h]
  cases runFrom surface (id + 1) rest <;> rfl

theorem runFrom_cons_of_error (hs : surface.Writable) {id : Nat} {i : Instruction} {e : RunError}
    (h : i.alone surface id = .error e) (rest : List Instruction) :
    runFrom surface id (i :: rest) = .ok (.failed e) := by
  obtain ⟨placed, hrun⟩ := i.run_eq hs id
  rw [runFrom, hrun, h]
  rfl

/-- The least index of a pair that fails when it is taken alone, or the number of pairs. -/
def firstFailure (surface : Surface) (is : List Instruction) : Nat :=
  is.findIdx (Instruction.fails surface)

/-- The outcome `o` of pairs that are numbered from `id` on stops at index `k`: what the pairs
before it yield is kept, and its failure is the error. -/
structure StopsAt (surface : Surface) (id : Nat) (is : List Instruction) (k : Nat) (o : Outcome) :
    Prop where
  length_positions : o.positions.length = k
  position : ∀ j < k, ∃ i t, is[j]? = some i ∧ i.alone surface ↑(id + j) = .ok t ∧
    o.positions[j]? = some t.text
  error_none : o.error = none ↔ k = is.length
  error : ∀ i, is[k]? = some i → ∃ e, i.alone surface ↑(id + k) = .error e ∧ o.error = some e ∧
    e.roverId? = some ↑(id + k)

theorem StopsAt.cons {id k : Nat} {i : Instruction} {is : List Instruction} {t : Rover}
    {o : Outcome} (hi : i.alone surface id = .ok t) (h : StopsAt surface (id + 1) is k o) :
    StopsAt surface id (i :: is) (k + 1) (o.cons t.text) where
  length_positions := by simp [Outcome.cons, h.length_positions]
  position j hj := by
    cases j with
    | zero => exact ⟨i, t, rfl, by simpa using hi, rfl⟩
    | succ j =>
      obtain ⟨i', t', hi', ht', hp⟩ := h.position j (by omega)
      rw [show id + 1 + j = id + (j + 1) by omega] at ht'
      exact ⟨i', t', by simpa using hi', ht', by simpa [Outcome.cons] using hp⟩
  error_none := by simpa [Outcome.cons] using h.error_none
  error i' hi' := by
    have h' := h.error i' (by simpa using hi')
    rwa [show id + 1 + k = id + (k + 1) by omega] at h'

theorem StopsAt.exists_failing {id k : Nat} {is : List Instruction} {o : Outcome} {e : RunError}
    (h : StopsAt surface id is k o) (he : o.error = some e) :
    ∃ i, is[k]? = some i ∧ i.Failing surface ↑(id + k) e := by
  have hne : k ≠ is.length := by
    intro hk
    rw [h.error_none.2 hk] at he
    contradiction
  have hle : k ≤ is.length := by
    cases k with
    | zero => exact Nat.zero_le _
    | succ k =>
      obtain ⟨i, -, hi, -⟩ := h.position k (Nat.lt_succ_self k)
      exact (List.getElem?_eq_some_iff.1 hi).1
  have hi : is[k]? = some is[k] := List.getElem?_eq_getElem (by omega)
  obtain ⟨d, hd, hde, -⟩ := h.error _ hi
  obtain rfl : d = e := Option.some.inj (hde.symm.trans he)
  exact ⟨_, hi, Instruction.failing_of_alone hd⟩

theorem exists_runFrom (hs : surface.Writable) (id : Nat) (is : List Instruction) :
    ∃ o, runFrom surface id is = .ok o ∧ StopsAt surface id is (firstFailure surface is) o := by
  induction is generalizing id with
  | nil => exact ⟨{}, rfl, by constructor <;> simp [firstFailure]⟩
  | cons i is ih =>
    cases hf : i.fails surface with
    | true =>
      obtain ⟨e, he⟩ := (Instruction.fails_eq_true_iff id).1 hf
      have hid := Instruction.roverId_of_failing (Instruction.failing_of_alone he)
      have h0 : firstFailure surface (i :: is) = 0 := by simp [firstFailure, List.findIdx_cons, hf]
      refine ⟨_, runFrom_cons_of_error hs he is, ?_⟩
      rw [h0]
      exact ⟨rfl, by simp, by simp [Outcome.failed], by
        rintro j hj
        obtain rfl : i = j := by simpa using hj
        exact ⟨e, he, rfl, hid⟩⟩
    | false =>
      obtain ⟨t, ht⟩ := (Instruction.fails_eq_false_iff id).1 hf
      obtain ⟨o, ho, hstop⟩ := ih (id + 1)
      have hk : firstFailure surface (i :: is) = firstFailure surface is + 1 := by
        simp [firstFailure, List.findIdx_cons, hf]
      refine ⟨o.cons t.text, ?_, ?_⟩
      · rw [runFrom_cons_of_ok hs ht, ho]
        rfl
      · rw [hk]
        exact hstop.cons ht

theorem runFrom_congr (hs : surface.Writable) {is js : List Instruction} (id : Nat)
    (h : js.take (firstFailure surface is + 1) = is.take (firstFailure surface is + 1)) :
    runFrom surface id js = runFrom surface id is := by
  induction is generalizing js id with
  | nil =>
    obtain rfl : js = [] := by simpa [firstFailure] using h
    rfl
  | cons i is ih =>
    obtain ⟨js, rfl⟩ : ∃ ks, js = i :: ks := by
      cases js with
      | nil => simp at h
      | cons j js =>
        simp only [List.take_succ_cons, List.cons.injEq] at h
        exact ⟨js, by rw [h.1]⟩
    cases hf : i.fails surface with
    | true =>
      obtain ⟨e, he⟩ := (Instruction.fails_eq_true_iff id).1 hf
      rw [runFrom_cons_of_error hs he, runFrom_cons_of_error hs he]
    | false =>
      obtain ⟨t, ht⟩ := (Instruction.fails_eq_false_iff id).1 hf
      have hk : firstFailure surface (i :: is) = firstFailure surface is + 1 := by
        simp [firstFailure, List.findIdx_cons, hf]
      rw [hk, List.take_succ_cons, List.take_succ_cons] at h
      rw [runFrom_cons_of_ok hs ht, runFrom_cons_of_ok hs ht, ih (id + 1) (List.cons.inj h).2]

theorem read_of_split {text first : List Char} {rest : List (List Char)}
    (hsplit : split text = first :: rest) :
    read text = (checkShape (first :: rest)).bind fun _ =>
      (Surface.ofLine first).bind fun surface => .ok (surface, pairs rest) := by
  rw [read, hsplit]
  rfl

theorem read_eq_ok_iff {text : List Char} {is : List Instruction} :
    read text = .ok (surface, is) ↔
      ∃ first rest, split text = first :: rest ∧ checkShape (first :: rest) = .ok () ∧
        Surface.ofLine first = .ok surface ∧ is = pairs rest := by
  cases hsplit : split text with
  | nil =>
    rw [read, hsplit]
    simp
  | cons first rest =>
    rw [read_of_split hsplit]
    cases hshape : checkShape (first :: rest) with
    | error e => simp [Except.bind, hshape]
    | ok u =>
      cases hline : Surface.ofLine first with
      | error e => simp [Except.bind, hline]
      | ok s => simp [Except.bind, hshape, hline]; tauto

theorem writable_of_read {text : List Char} {is : List Instruction}
    (h : read text = .ok (surface, is)) : surface.Writable := by
  obtain ⟨first, rest, -, -, hline, -⟩ := read_eq_ok_iff.1 h
  exact Surface.writable_of_ofLine hline

theorem run_of_read_error {text : List Char} {e : RunError} (h : read text = .error e) :
    run {} text = .ok (.failed e) := by
  rw [run, h]

theorem run_of_read_ok {text : List Char} {is : List Instruction}
    (h : read text = .ok (surface, is)) :
    run {} text = (runFrom surface 0 is).mapError .overflow := by
  rw [run, h]
  rfl

theorem exists_run (text : List Char) : ∃ o, run {} text = .ok o := by
  cases hread : read text with
  | error e => exact ⟨_, run_of_read_error hread⟩
  | ok p =>
    obtain ⟨o, ho, -⟩ := exists_runFrom (writable_of_read hread) 0 p.2
    exact ⟨o, by rw [run_of_read_ok hread, ho]; rfl⟩

/-- A run keeps the positions of the rovers before the first that fails, and its error is that
rover's; whatever stands after that rover may be changed.  Without a surface there is no
position. -/
theorem run_keeps_finished {text first : List Char} {rest : List (List Char)}
    (hsplit : split text = first :: rest) :
    ((∀ surface, checkShape (first :: rest) = .ok () → Surface.ofLine first ≠ .ok surface) →
      ∃ e, run {} text = .ok ⟨[], some e⟩) ∧
    ∀ surface, checkShape (first :: rest) = .ok () → Surface.ofLine first = .ok surface →
      ∃ o, run {} text = .ok o ∧
        StopsAt surface 0 (pairs rest) (firstFailure surface (pairs rest)) o ∧
        ∀ text' rest', split text' = first :: rest' → checkShape (first :: rest') = .ok () →
          (pairs rest').take (firstFailure surface (pairs rest) + 1) =
            (pairs rest).take (firstFailure surface (pairs rest) + 1) →
          run {} text' = .ok o := by
  constructor
  · intro h
    cases hread : read text with
    | error e => exact ⟨e, run_of_read_error hread⟩
    | ok p =>
      obtain ⟨first', rest', hsplit', hshape, hline, -⟩ := read_eq_ok_iff.1 hread
      obtain ⟨rfl, rfl⟩ := List.cons.inj (hsplit.symm.trans hsplit')
      exact absurd hline (h p.1 hshape)
  · intro surface hshape hline
    have hread : read text = .ok (surface, pairs rest) :=
      read_eq_ok_iff.2 ⟨first, rest, hsplit, hshape, hline, rfl⟩
    have hs := writable_of_read hread
    obtain ⟨o, ho, hstop⟩ := exists_runFrom hs 0 (pairs rest)
    refine ⟨o, by rw [run_of_read_ok hread, ho]; rfl, hstop, ?_⟩
    intro text' rest' hsplit' hshape' hagree
    have hread' : read text' = .ok (surface, pairs rest') :=
      read_eq_ok_iff.2 ⟨first, rest', hsplit', hshape', hline, rfl⟩
    rw [run_of_read_ok hread', runFrom_congr hs 0 hagree, ho]
    rfl

/-- The second of three rovers leaves the surface, and the third may as well be missing. -/
theorem run_keeps_finished_of_three :
    ∃ o, run {} "1 1\n0 0 N\nM\n0 0 E\nMM\n9 9 N\nX".toList = .ok o ∧
      o.positions.length = 1 ∧ o.error = some (.robotOutOfBounds 1 2 0) ∧
      run {} "1 1\n0 0 N\nM\n0 0 E\nMM".toList = .ok o := by
  let rest := ["0 0 N", "M", "0 0 E", "MM", "9 9 N", "X"].map String.toList
  let rest' := ["0 0 N", "M", "0 0 E", "MM"].map String.toList
  have hsplit : split "1 1\n0 0 N\nM\n0 0 E\nMM\n9 9 N\nX".toList = "1 1".toList :: rest := by
    decide
  have hsplit' : split "1 1\n0 0 N\nM\n0 0 E\nMM".toList = "1 1".toList :: rest' := by decide
  obtain ⟨o, ho, hstop, hlater⟩ :=
    (run_keeps_finished hsplit).2 ⟨1, 1⟩ (by decide) (by decide)
  have hk : firstFailure ⟨1, 1⟩ (pairs rest) = 1 := by decide
  rw [hk] at hstop hlater
  obtain ⟨e, he, herror, -⟩ := hstop.error ⟨"0 0 E".toList, "MM".toList⟩ (by decide)
  have halone : Instruction.alone ⟨1, 1⟩ 1 ⟨"0 0 E".toList, "MM".toList⟩ =
      .error (.robotOutOfBounds 1 2 0) := by decide
  obtain rfl := Except.error.inj (halone.symm.trans he)
  exact ⟨o, ho, hstop.length_positions, herror,
    hlater _ rest' hsplit' (by decide) (by decide)⟩

end Instructions

end Plateau

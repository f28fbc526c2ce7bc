import Mathlib.Data.List.Basic
import Plateau.Pool

namespace Plateau

/-- The moves that are still owed to a task. -/
def Stage.effort : Stage → Nat
  | .queued => 2
  | .running => 1
  | .finished | .cancelled => 0

namespace Pool

variable {ε α : Type} {stops : α → Bool} {calls : List (Except ε α)} {p q : Pool ε α}

theorem drop_of_getElem? {β : Type} {l : List β} {i : Nat} {b : β} (h : l[i]? = some b) :
    l.drop i = b :: l.drop (i + 1) := by
  obtain ⟨hi, rfl⟩ := List.getElem?_eq_some_iff.1 h
  exact List.drop_eq_getElem_cons hi

inductive Steps (stops : α → Bool) (p : Pool ε α) : Pool ε α → Prop where
  | start {i : Nat} {call : Except ε α} (ht : p.tasks[i]? = some ⟨call, .queued⟩)
    (hw : p.running < p.workers) : Steps stops p (p.setStage i .running)
  | finish {i : Nat} {call : Except ε α} (ht : p.tasks[i]? = some ⟨call, .running⟩) :
    Steps stops p (p.setStage i .finished)
  | submit {call : Except ε α} {rest : List (Except ε α)} (hd : p.duty = .submit)
    (hu : p.unsent = call :: rest) :
    Steps stops p { p with unsent := rest, tasks := p.tasks ++ [{ call }], duty := .submit }
  | submitted (hd : p.duty = .submit) (hu : p.unsent = []) :
    Steps stops p { p with unsent := [], duty := .read }
  | fail {e : ε} (hd : p.duty = .read)
    (ht : p.tasks[p.results.length]? = some ⟨.error e, .finished⟩) :
    Steps stops p { p with failure := some e, duty := .leave }
  | stop {a : α} (hd : p.duty = .read)
    (ht : p.tasks[p.results.length]? = some ⟨.ok a, .finished⟩) (ha : stops a = true) :
    Steps stops p
      { p with results := p.results ++ [a], duty := .cancel (p.results.length + 1) }
  | take {a : α} (hd : p.duty = .read)
    (ht : p.tasks[p.results.length]? = some ⟨.ok a, .finished⟩) (ha : stops a = false) :
    Steps stops p { p with results := p.results ++ [a], duty := .read }
  | readAll (hd : p.duty = .read) (ht : p.tasks[p.results.length]? = none) :
    Steps stops p { p with duty := .leave }
  | cancel {next : Nat} {call : Except ε α} (hd : p.duty = .cancel next)
    (ht : p.tasks[next]? = some ⟨call, .queued⟩) :
    Steps stops p { p.setStage next .cancelled with duty := .cancel (next + 1) }
  | skip {next : Nat} {t : Task ε α} (hd : p.duty = .cancel next) (ht : p.tasks[next]? = some t)
    (hs : t.stage ≠ .queued) : Steps stops p { p with duty := .cancel (next + 1) }
  | cancelled {next : Nat} (hd : p.duty = .cancel next) (ht : p.tasks[next]? = none) :
    Steps stops p { p with duty := .leave }
  | leave (hd : p.duty = .leave) (hi : p.idle = true) : Steps stops p { p with duty := .left }

theorem steps_of_advance (h : p.advance stops = some q) : Steps stops p q := by
  unfold advance at h
  cases hd : p.duty with
  | submit =>
    simp only [hd] at h
    cases hu : p.unsent with
    | nil =>
      simp only [hu, Option.some.injEq] at h
      exact h ▸ .submitted hd hu
    | cons call rest =>
      simp only [hu, Option.some.injEq] at h
      exact h ▸ .submit hd hu
  | read =>
    simp only [hd] at h
    cases ht : p.tasks[p.results.length]? with
    | none =>
      simp only [ht, Option.some.injEq] at h
      exact h ▸ .readAll hd ht
    | some t =>
      obtain ⟨call, stage⟩ := t
      simp only [ht, Option.ite_none_right_eq_some, Option.some.injEq] at h
      obtain ⟨rfl, rfl⟩ := h
      cases call with
      | error e => exact .fail hd ht
      | ok a =>
        cases ha : stops a with
        | true =>
          simp only [take, ha, if_true]
          exact .stop hd ht ha
        | false =>
          simp only [take, ha]
          exact .take hd ht ha
  | cancel next =>
    simp only [hd] at h
    cases ht : p.tasks[next]? with
    | none =>
      simp only [ht, Option.some.injEq] at h
      exact h ▸ .cancelled hd ht
    | some t =>
      obtain ⟨call, stage⟩ := t
      simp only [ht, Option.some.injEq] at h
      by_cases hs : stage = .queued
      · subst hs
        exact h ▸ .cancel hd ht
      · rw [if_neg hs] at h
        exact h ▸ .skip hd ht hs
  | leave =>
    simp only [hd, Option.ite_none_right_eq_some, Option.some.injEq] at h
    exact h.2 ▸ .leave hd h.1
  | left => simp [hd] at h

theorem steps_of_perform {m : Move} (h : p.perform stops m = some q) : Steps stops p q := by
  unfold perform at h
  cases m with
  | start i =>
    dsimp only at h
    split at h
    · rename_i call ht
      simp only [Option.ite_none_right_eq_some, Option.some.injEq] at h
      exact h.2 ▸ .start ht h.1
    · contradiction
  | finish i =>
    dsimp only at h
    split at h
    · rename_i call ht
      obtain rfl := Option.some.inj h
      exact .finish ht
    · contradiction
  | advance => exact steps_of_advance h

theorem exists_perform_of_next {k : Nat} (h : p.next? stops k = some q) :
    ∃ m, p.perform stops m = some q := by
  obtain ⟨m, -, hm⟩ := List.exists_of_findSome?_eq_some h
  exact ⟨m, hm⟩

theorem next_eq_none_iff {k : Nat} :
    p.next? stops k = none ↔ ∀ m ∈ p.moves, p.perform stops m = none := by
  rw [next?, List.findSome?_eq_none_iff]
  constructor
  · intro h m hm
    rw [← List.take_append_drop k p.moves, List.mem_append] at hm
    exact h m (List.mem_append.2 hm.symm)
  · intro h m hm
    refine h m ?_
    rw [← List.take_append_drop k p.moves, List.mem_append]
    exact (List.mem_append.1 hm).symm

theorem start_finish_mem_moves {i : Nat} (h : i < p.tasks.length) :
    Move.start i ∈ p.moves ∧ Move.finish i ∈ p.moves := by
  have hz : (p.tasks[i], i) ∈ p.tasks.zipIdx := by
    rw [List.mem_zipIdx_iff_getElem?]
    exact List.getElem?_eq_getElem h
  constructor
  · exact List.mem_cons_of_mem _ (List.mem_flatMap.2 ⟨_, hz, by simp⟩)
  · exact List.mem_cons_of_mem _ (List.mem_flatMap.2 ⟨_, hz, by simp⟩)

/-- The values of calls up to the first that stops the reader, or a failure before that. -/
def readThrough (stops : α → Bool) : List (Except ε α) → Except ε (List α)
  | [] => .ok []
  | .error e :: _ => .error e
  | .ok a :: rest =>
    if stops a then .ok [a] else (readThrough stops rest).map (a :: ·)

/-- Nothing has stopped the reader so far: what it has to get is what it took, and then what the
remaining calls give it. -/
structure Open (stops : α → Bool) (calls : List (Except ε α)) (p : Pool ε α) : Prop where
  failure : p.failure = none
  alive : ∀ t ∈ p.tasks, t.stage ≠ .cancelled
  rest : readThrough stops calls =
    (readThrough stops (calls.drop p.results.length)).map (p.results ++ ·)

/-- The calls are handed in in their order, and once the reader cancels or leaves it has what it
was to get. -/
structure Keeps (stops : α → Bool) (calls : List (Except ε α)) (p : Pool ε α) : Prop where
  sent : p.tasks.map Task.call ++ p.unsent = calls
  reads : match p.duty with
    | .submit => p.Open stops calls
    | .read => p.unsent = [] ∧ p.Open stops calls
    | .cancel _ | .leave | .left => p.outcome = readThrough stops calls

theorem keeps_start (workers : Nat) (calls : List (Except ε α)) :
    Keeps stops calls { workers, unsent := calls } where
  sent := rfl
  reads := ⟨rfl, by simp, by cases h : readThrough stops calls <;> simp [h, Except.map]⟩

theorem getElem?_setStage (i : Nat) (stage : Stage) (p : Pool ε α) (j : Nat) :
    (p.setStage i stage).tasks[j]? =
      p.tasks[j]?.map fun t => if i = j then { t with stage } else t :=
  List.getElem?_modify ..

theorem calls_setStage (i : Nat) (stage : Stage) (p : Pool ε α) :
    (p.setStage i stage).tasks.map Task.call = p.tasks.map Task.call := by
  apply List.ext_getElem?
  intro j
  rw [List.getElem?_map, List.getElem?_map, getElem?_setStage, Option.map_map]
  congr 1
  funext t
  simp only [Function.comp]
  split <;> rfl

theorem Open.setStage {i : Nat} {stage : Stage} (h : p.Open stops calls) (hs : stage ≠ .cancelled) :
    (p.setStage i stage).Open stops calls where
  failure := h.failure
  alive t ht := by
    obtain ⟨j, hj⟩ := List.mem_iff_getElem?.1 ht
    rw [getElem?_setStage, Option.map_eq_some_iff] at hj
    obtain ⟨u, hu, rfl⟩ := hj
    split
    · exact hs
    · exact h.alive u (List.mem_of_getElem? hu)
  rest := h.rest

/-- Work on a task is invisible to the reader. -/
theorem Keeps.setStage {i : Nat} {stage : Stage} (h : p.Keeps stops calls)
    (hs : stage ≠ .cancelled) : (p.setStage i stage).Keeps stops calls where
  sent := by rw [calls_setStage]; exact h.sent
  reads := by
    have hreads := h.reads
    change match p.duty with
      | .submit => (p.setStage i stage).Open stops calls
      | .read => p.unsent = [] ∧ (p.setStage i stage).Open stops calls
      | .cancel _ | .leave | .left => p.outcome = readThrough stops calls
    cases hd : p.duty with
    | submit => rw [hd] at hreads; exact hreads.setStage hs
    | read => rw [hd] at hreads; exact ⟨hreads.1, hreads.2.setStage hs⟩
    | cancel next => rw [hd] at hreads; exact hreads
    | leave => rw [hd] at hreads; exact hreads
    | left => rw [hd] at hreads; exact hreads

theorem Keeps.open_of_submit (h : p.Keeps stops calls) (hd : p.duty = .submit) :
    p.Open stops calls := by
  have hreads := h.reads
  rwa [hd] at hreads

theorem Keeps.open_of_read (h : p.Keeps stops calls) (hd : p.duty = .read) :
    p.tasks.map Task.call = calls ∧ p.Open stops calls := by
  have hreads := h.reads
  rw [hd] at hreads
  obtain ⟨hunsent, hopen⟩ := hreads
  have hsent := h.sent
  rw [hunsent, List.append_nil] at hsent
  exact ⟨hsent, hopen⟩

theorem Keeps.readThrough_eq (h : p.Keeps stops calls) (hd : p.duty = .read) {t : Task ε α}
    (ht : p.tasks[p.results.length]? = some t) :
    readThrough stops calls =
      (readThrough stops (t.call :: calls.drop (p.results.length + 1))).map (p.results ++ ·) := by
  obtain ⟨hsent, hopen⟩ := h.open_of_read hd
  have hcall : calls[p.results.length]? = some t.call := by
    rw [← hsent, List.getElem?_map, ht]
    rfl
  rw [← drop_of_getElem? hcall]
  exact hopen.rest

theorem Keeps.outcome_of_readAll (h : p.Keeps stops calls) (hd : p.duty = .read)
    (ht : p.tasks[p.results.length]? = none) : p.outcome = readThrough stops calls := by
  obtain ⟨hsent, hopen⟩ := h.open_of_read hd
  have hlen : calls.length ≤ p.results.length := by
    rw [← hsent, List.length_map]
    exact List.getElem?_eq_none_iff.1 ht
  rw [hopen.rest, List.drop_eq_nil_iff.2 hlen, outcome, hopen.failure]
  simp [readThrough, Except.map]

theorem Keeps.step (h : p.Keeps stops calls) (hstep : Steps stops p q) : q.Keeps stops calls := by
  have hreads := h.reads
  cases hstep with
  | start ht hw => exact h.setStage (by decide)
  | finish ht => exact h.setStage (by decide)
  | submit hd hu =>
    have hopen := h.open_of_submit hd
    refine ⟨?_, ⟨hopen.failure, ?_, hopen.rest⟩⟩
    · rw [← h.sent, hu]
      simp
    · intro t ht
      rcases List.mem_append.1 ht with ht | ht
      · exact hopen.alive t ht
      · obtain rfl := List.mem_singleton.1 ht
        simp
  | submitted hd hu =>
    have hopen := h.open_of_submit hd
    exact ⟨hu ▸ h.sent, rfl, hopen.failure, hopen.alive, hopen.rest⟩
  | fail hd ht =>
    refine ⟨h.sent, ?_⟩
    rw [h.readThrough_eq hd ht]
    rfl
  | stop hd ht ha =>
    refine ⟨h.sent, ?_⟩
    rw [h.readThrough_eq hd ht]
    simp [outcome, (h.open_of_read hd).2.failure, readThrough, ha, Except.map]
  | take hd ht ha =>
    -- The one result that leaves the reader reading; it moves from the calls to the results.
    obtain ⟨-, hopen⟩ := h.open_of_read hd
    rw [hd] at hreads
    refine ⟨h.sent, hreads.1, hopen.failure, hopen.alive, ?_⟩
    rw [h.readThrough_eq hd ht]
    simp only [readThrough, ha, List.length_append, List.length_singleton]
    cases readThrough stops (calls.drop (p.results.length + 1)) <;> simp [Except.map]
  | readAll hd ht => exact ⟨h.sent, h.outcome_of_readAll hd ht⟩
  | cancel hd ht =>
    rw [hd] at hreads
    refine ⟨?_, hreads⟩
    rw [calls_setStage]
    exact h.sent
  | skip hd ht hs =>
    rw [hd] at hreads
    exact ⟨h.sent, hreads⟩
  | cancelled hd ht =>
    rw [hd] at hreads
    exact ⟨h.sent, hreads⟩
  | leave hd hi =>
    rw [hd] at hreads
    exact ⟨h.sent, hreads⟩

theorem exists_move_of_running {i : Nat} {t : Task ε α} (ht : p.tasks[i]? = some t)
    (hs : t.stage = .running) : ∃ m ∈ p.moves, p.perform stops m ≠ none := by
  obtain ⟨hi, -⟩ := List.getElem?_eq_some_iff.1 ht
  obtain ⟨call, stage⟩ := t
  subst hs
  exact ⟨.finish i, (start_finish_mem_moves hi).2, by simp [perform, ht]⟩

theorem exists_move_of_queued (hw : 0 < p.workers) {i : Nat} {t : Task ε α}
    (ht : p.tasks[i]? = some t) (hs : t.stage = .queued) :
    ∃ m ∈ p.moves, p.perform stops m ≠ none := by
  by_cases hfree : p.running < p.workers
  · obtain ⟨hi, -⟩ := List.getElem?_eq_some_iff.1 ht
    obtain ⟨call, stage⟩ := t
    subst hs
    exact ⟨.start i, (start_finish_mem_moves hi).1, by simp [perform, ht, hfree]⟩
  · have hbusy : 0 < p.running := by omega
    obtain ⟨u, hu, hrunning⟩ := List.countP_pos_iff.1 hbusy
    obtain ⟨j, hj⟩ := List.mem_iff_getElem?.1 hu
    exact exists_move_of_running hj (by simpa using hrunning)

theorem exists_move_of_advance (h : p.advance stops ≠ none) :
    ∃ m ∈ p.moves, p.perform stops m ≠ none :=
  ⟨.advance, by simp [moves], h⟩

/-- Until the reader has left, some move can be made. -/
theorem Keeps.exists_move (h : p.Keeps stops calls) (hw : 0 < p.workers) (hleft : p.duty ≠ .left) :
    ∃ m ∈ p.moves, p.perform stops m ≠ none := by
  cases hd : p.duty with
  | submit =>
    apply exists_move_of_advance
    cases hu : p.unsent <;> simp [advance, hd, hu]
  | read =>
    cases ht : p.tasks[p.results.length]? with
    | none =>
      apply exists_move_of_advance
      simp [advance, hd, ht]
    | some t =>
      cases hs : t.stage with
      | queued => exact exists_move_of_queued hw ht hs
      | running => exact exists_move_of_running ht hs
      | finished =>
        apply exists_move_of_advance
        simp [advance, hd, ht, hs]
      | cancelled => exact absurd hs ((h.open_of_read hd).2.alive t (List.mem_of_getElem? ht))
  | cancel next =>
    apply exists_move_of_advance
    cases ht : p.tasks[next]? <;> simp [advance, hd, ht]
  | leave =>
    by_cases hidle : p.idle = true
    · apply exists_move_of_advance
      simp [advance, hd, hidle]
    · have hopen : ∃ t ∈ p.tasks, t.stage ≠ .finished ∧ t.stage ≠ .cancelled := by
        simpa [idle] using hidle
      obtain ⟨t, hmem, hfinished, hcancelled⟩ := hopen
      obtain ⟨i, ht⟩ := List.mem_iff_getElem?.1 hmem
      cases hs : t.stage with
      | queued => exact exists_move_of_queued hw ht hs
      | running => exact exists_move_of_running ht hs
      | finished => exact absurd hs hfinished
      | cancelled => exact absurd hs hcancelled
  | left => exact absurd hd hleft

def owed : List (Task ε α) → Nat
  | [] => 0
  | t :: tasks => t.stage.effort + owed tasks

/-- A bound on the moves that are left: each task starts and finishes, and the reader submits,
reads and cancels each once. -/
def effort (p : Pool ε α) : Nat :=
  owed p.tasks + 3 * p.unsent.length +
    match p.duty with
    | .submit => 2 * (p.tasks.length + p.unsent.length) + 5
    | .read => (p.tasks.length + p.unsent.length - p.results.length) +
        (p.tasks.length + p.unsent.length) + 4
    | .cancel next => (p.tasks.length + p.unsent.length - next) + 3
    | .leave => 2
    | .left => 0

theorem owed_concat (tasks : List (Task ε α)) (t : Task ε α) :
    owed (tasks ++ [t]) = owed tasks + t.stage.effort := by
  induction tasks with
  | nil => simp [owed]
  | cons u tasks ih =>
    simp only [List.cons_append, owed, ih]
    omega

theorem owed_modify (tasks : List (Task ε α)) {i : Nat} {t : Task ε α} (ht : tasks[i]? = some t)
    (stage : Stage) :
    owed (tasks.modify i fun t => { t with stage }) + t.stage.effort =
      owed tasks + stage.effort := by
  induction tasks generalizing i with
  | nil => simp at ht
  | cons u tasks ih =>
    cases i with
    | zero =>
      obtain rfl : u = t := by simpa using ht
      simp only [List.modify_zero_cons, owed]
      omega
    | succ i =>
      have hrest := ih (by simpa using ht)
      simp only [List.modify_succ_cons, owed]
      omega

theorem effort_lt_of_steps (h : Steps stops p q) : q.effort < p.effort := by
  cases h with
  | start ht hw =>
    have howed := owed_modify p.tasks ht .running
    simp only [effort, setStage, List.length_modify, Stage.effort] at howed ⊢
    omega
  | finish ht =>
    have howed := owed_modify p.tasks ht .finished
    simp only [effort, setStage, List.length_modify, Stage.effort] at howed ⊢
    omega
  | submit hd hu =>
    simp only [effort, hd, hu, owed_concat, List.length_append, List.length_cons, List.length_nil,
      Stage.effort]
    omega
  | submitted hd hu =>
    simp only [effort, hd, hu, List.length_nil]
    omega
  | fail hd ht =>
    simp only [effort, hd]
    omega
  | stop hd ht ha =>
    simp only [effort, hd]
    omega
  | take hd ht ha =>
    obtain ⟨hlt, -⟩ := List.getElem?_eq_some_iff.1 ht
    simp only [effort, hd, List.length_append, List.length_singleton]
    omega
  | readAll hd ht =>
    simp only [effort, hd]
    omega
  | cancel hd ht =>
    have howed := owed_modify p.tasks ht .cancelled
    obtain ⟨hlt, -⟩ := List.getElem?_eq_some_iff.1 ht
    simp only [effort, setStage, hd, List.length_modify, Stage.effort] at howed ⊢
    omega
  | skip hd ht hs =>
    obtain ⟨hlt, -⟩ := List.getElem?_eq_some_iff.1 ht
    simp only [effort, hd]
    omega
  | cancelled hd ht =>
    simp only [effort, hd]
    omega
  | leave hd hi =>
    simp only [effort, hd]
    omega

theorem workers_of_steps (h : Steps stops p q) : q.workers = p.workers := by
  cases h <;> rfl

theorem left_of_effort_zero (h : p.effort = 0) : p.duty = .left := by
  unfold effort at h
  cases hd : p.duty <;> simp [hd] at h
  rfl

def performAll (stops : α → Bool) : List Move → Pool ε α → Option (Pool ε α)
  | [], p => some p
  | m :: ms, p => (p.perform stops m).bind (performAll stops ms)

theorem Keeps.performAll {ms : List Move} (h : p.Keeps stops calls)
    (hms : p.performAll stops ms = some q) : q.Keeps stops calls := by
  induction ms generalizing p with
  | nil =>
    obtain rfl := Option.some.inj hms
    exact h
  | cons m ms ih =>
    obtain ⟨p', hm, hrest⟩ := Option.bind_eq_some_iff.1 hms
    exact ih (h.step (steps_of_perform hm)) hrest

theorem Keeps.outcome_of_left (h : p.Keeps stops calls) (hd : p.duty = .left) :
    p.outcome = readThrough stops calls := by
  have hreads := h.reads
  rwa [hd] at hreads

/-- Under any schedule the reader leaves in the end. -/
theorem Keeps.drive (h : p.Keeps stops calls) (hw : 0 < p.workers) (schedule : Nat → Nat) {n : Nat}
    (hn : p.effort ≤ n) :
    (drive stops schedule n p).Keeps stops calls ∧ (drive stops schedule n p).duty = .left := by
  induction n generalizing p with
  | zero => exact ⟨h, left_of_effort_zero (Nat.le_zero.1 hn)⟩
  | succ n ih =>
    cases hq : p.next? stops (schedule n) with
    | none =>
      simp only [Pool.drive, hq]
      refine ⟨h, ?_⟩
      by_contra hd
      obtain ⟨m, hm, hperform⟩ := h.exists_move hw hd
      exact hperform (next_eq_none_iff.1 hq m hm)
    | some q =>
      obtain ⟨m, hm⟩ := exists_perform_of_next hq
      have hstep := steps_of_perform hm
      have hlt := effort_lt_of_steps hstep
      simp only [Pool.drive, hq]
      exact ih (h.step hstep) (workers_of_steps hstep ▸ hw) (by omega)

theorem run_reads {machine : Machine} {maxWorkers : Option Int}
    (hw : 0 < machine.workers maxWorkers) (stops : α → Bool) (calls : List (Except ε α)) :
    (run machine maxWorkers stops calls).duty = .left ∧
      (run machine maxWorkers stops calls).outcome = readThrough stops calls := by
  obtain ⟨hkeeps, hleft⟩ := (keeps_start (machine.workers maxWorkers) calls).drive hw
    machine.schedule (n := patience calls) (by simp [effort, owed, patience]; omega)
  exact ⟨hleft, hkeeps.outcome_of_left hleft⟩

theorem mem_moves_of_perform {m : Move} (h : p.perform stops m = some q) : m ∈ p.moves := by
  unfold perform at h
  cases m with
  | start i =>
    dsimp only at h
    split at h
    · rename_i ht
      exact (start_finish_mem_moves (List.getElem?_eq_some_iff.1 ht).1).1
    · contradiction
  | finish i =>
    dsimp only at h
    split at h
    · rename_i ht
      exact (start_finish_mem_moves (List.getElem?_eq_some_iff.1 ht).1).2
    · contradiction
  | advance => exact List.mem_cons_self

theorem exists_next_of_perform {m : Move} (h : p.perform stops m = some q) :
    ∃ k, p.next? stops k = some q := by
  obtain ⟨k, hk⟩ := List.mem_iff_getElem?.1 (mem_moves_of_perform h)
  refine ⟨k, ?_⟩
  rw [next?, drop_of_getElem? hk, List.cons_append, List.findSome?_cons, h]

theorem drive_congr {s s' : Nat → Nat} {n : Nat} (h : ∀ k < n, s k = s' k) (p : Pool ε α) :
    drive stops s n p = drive stops s' n p := by
  induction n generalizing p with
  | zero => rfl
  | succ n ih =>
    simp only [drive, h n (Nat.lt_succ_self n)]
    cases p.next? stops (s' n) with
    | none => rfl
    | some q => exact ih (fun k hk => h k (by omega)) q

theorem exists_drive_eq {ms : List Move} (hms : p.performAll stops ms = some q)
    (hend : ∀ m ∈ q.moves, q.perform stops m = none) {n : Nat} (hn : ms.length ≤ n) :
    ∃ schedule, drive stops schedule n p = q := by
  induction ms generalizing p n with
  | nil =>
    obtain rfl := Option.some.inj hms
    refine ⟨fun _ => 0, ?_⟩
    cases n with
    | zero => rfl
    | succ n => simp only [drive, next_eq_none_iff.2 hend]
  | cons m ms ih =>
    obtain ⟨p', hm, hrest⟩ := Option.bind_eq_some_iff.1 hms
    obtain ⟨n, rfl⟩ : ∃ l, n = l + 1 := ⟨n - 1, by simp only [List.length_cons] at hn; omega⟩
    obtain ⟨s, hs⟩ := ih hrest (by simpa using hn)
    obtain ⟨k, hk⟩ := exists_next_of_perform hm
    -- The schedule counts the moves that are left down, so that `s` covers the rest.
    refine ⟨Function.update s n k, ?_⟩
    simp only [drive, Function.update_self, hk]
    rw [← hs]
    apply drive_congr
    intro l hl
    exact Function.update_of_ne (by omega) ..

theorem length_le_of_performAll {ms : List Move} (h : p.performAll stops ms = some q) :
    ms.length ≤ p.effort := by
  induction ms generalizing p with
  | nil => exact Nat.zero_le _
  | cons m ms ih =>
    obtain ⟨p', hm, hrest⟩ := Option.bind_eq_some_iff.1 h
    have hlt := effort_lt_of_steps (steps_of_perform hm)
    have hle := ih hrest
    simp only [List.length_cons]
    omega

/-- In whatever order moves are made until none is left, some schedule has them made in it. -/
theorem exists_run_eq {machine : Machine} {maxWorkers : Option Int} {ms : List Move}
    (hms : performAll stops ms { workers := machine.workers maxWorkers, unsent := calls } = some q)
    (hend : ∀ m ∈ q.moves, q.perform stops m = none) :
    ∃ schedule, run { machine with schedule } maxWorkers stops calls = q := by
  have hle := length_le_of_performAll hms
  have hpatience : ms.length ≤ patience calls := by
    simp only [effort, patience, owed, List.length_nil] at hle ⊢
    omega
  exact exists_drive_eq hms hend hpatience

end Pool

end Plateau

import Plateau.Proofs.Partial
import Plateau.Proofs.Pool

namespace Plateau

namespace Instructions

/-- What a reader gets who takes the rovers' journeys in order amounts to a run one after the
other. -/
theorem collect_readThrough (surface : Surface) (id : Nat) (is : List Instruction) :
    (Pool.readThrough Journey.failed (tasks surface id is)).map collect =
      runFrom surface id is := by
  induction is generalizing id with
  | nil => rfl
  | cons i is ih =>
    rw [tasks, runFrom]
    cases hrun : i.run surface id with
    | error e => rfl
    | ok journey =>
      obtain ⟨placed, result⟩ := journey
      cases result with
      | error e => rfl
      | ok position =>
        simp only [Pool.readThrough, Journey.failed]
        rw [show runFrom surface (id + 1) is = _ from (ih (id + 1)).symm]
        cases Pool.readThrough Journey.failed (tasks surface (id + 1) is) <;> rfl

theorem workers_pos {maxWorkers : Option Int} (h : ∀ n ∈ maxWorkers, 1 ≤ n) (machine : Machine) :
    0 < machine.workers maxWorkers := by
  cases maxWorkers with
  | none =>
    simp only [Machine.workers]
    omega
  | some n =>
    have hn := h n rfl
    simp only [Machine.workers]
    omega

theorem checkWorkers_eq_ok {maxWorkers : Option Int} (h : ∀ n ∈ maxWorkers, 1 ≤ n) :
    checkWorkers maxWorkers = .ok () := by
  cases maxWorkers with
  | none => rfl
  | some n =>
    have hn := h n rfl
    simp only [checkWorkers]
    rw [if_neg (by omega)]

theorem runPool_eq {maxWorkers : Option Int} (h : ∀ n ∈ maxWorkers, 1 ≤ n) (surface : Surface)
    (is : List Instruction) (machine : Machine) :
    runPool maxWorkers surface is machine = (runFrom surface 0 is).mapError .overflow := by
  have hreads := (Pool.run_reads (workers_pos h machine) Journey.failed (tasks surface 0 is)).2
  rw [← collect_readThrough, ← hreads, runPool, checkWorkers_eq_ok h]
  rfl

theorem run_config_eq {config : RunnerConfig} (h : ∀ n ∈ config.maxWorkers, 1 ≤ n)
    (text : List Char) (machine : Machine) : run config text machine = run {} text := by
  cases hread : read text with
  | error e => simp only [run, hread]
  | ok p =>
    cases hp : config.parallel with
    | false =>
      rw [run_of_read_ok hread, run, hread]
      simp only [hp, Bool.false_eq_true, if_false]
    | true =>
      rw [run_of_read_ok hread, ← runPool_eq h p.1 p.2 machine]
      simp only [run, hread, hp, if_true]

theorem workers_of_checkWorkers {maxWorkers : Option Int} (h : checkWorkers maxWorkers = .ok ()) :
    ∀ n ∈ maxWorkers, 1 ≤ n := by
  rintro n rfl
  rw [checkWorkers] at h
  split at h
  · contradiction
  · omega

theorem run_config_eq_of_read {config : RunnerConfig} {text : List Char} {machine : Machine}
    {p : Surface × List Instruction} {o : Outcome} (hread : read text = .ok p)
    (h : run config text machine = .ok o) (other : List Char) :
    run config other machine = run {} other := by
  cases hp : config.parallel with
  | false =>
    rw [run, run, hp]
    rfl
  | true =>
    have hpool : runPool config.maxWorkers p.1 p.2 machine = .ok o := by
      simpa only [run, hread, hp, if_true] using h
    obtain ⟨_, hcheck, -⟩ := bind_eq_ok_iff.1 hpool
    exact run_config_eq (workers_of_checkWorkers hcheck) other machine

theorem run_of_run_config {config : RunnerConfig} {text : List Char} {machine : Machine}
    {o : Outcome} (h : run config text machine = .ok o) : run {} text = .ok o := by
  cases hread : read text with
  | error e =>
    rw [run_of_read_error hread]
    simpa only [run, hread] using h
  | ok p => rw [← run_config_eq_of_read hread h text, h]

/-- On a pool of any size, and on any machine, a run has the outcome of a run one after the other:
that of the lowest rover that fails.  In whatever order the tasks start, finish and are cancelled,
the reader gets nothing else, and it gets there. -/
theorem run_parallel_eq {maxWorkers : Option Int} (h : ∀ n ∈ maxWorkers, 1 ≤ n) (text : List Char)
    (machine : Machine) :
    run ⟨true, maxWorkers⟩ text machine = run {} text ∧
      ∀ surface is, read text = .ok (surface, is) →
        (Pool.run machine maxWorkers Journey.failed (tasks surface 0 is)).duty = .left ∧
        (∀ ms q, Pool.performAll Journey.failed ms
            { workers := machine.workers maxWorkers, unsent := tasks surface 0 is } = some q →
          q.duty = .left → (q.outcome.map collect).mapError .overflow = run {} text) ∧
        ∃ o, run ⟨true, maxWorkers⟩ text machine = .ok o ∧
          StopsAt surface 0 is (firstFailure surface is) o := by
  have heq : run ⟨true, maxWorkers⟩ text machine = run {} text := run_config_eq h text machine
  refine ⟨heq, fun surface is hread => ⟨?_, ?_, ?_⟩⟩
  · exact (Pool.run_reads (workers_pos h machine) Journey.failed (tasks surface 0 is)).1
  · intro ms q hms hleft
    rw [((Pool.keeps_start _ _).performAll hms).outcome_of_left hleft, collect_readThrough,
      run_of_read_ok hread]
  · obtain ⟨o, ho, hstop⟩ := exists_runFrom (writable_of_read hread) 0 is
    refine ⟨o, ?_, hstop⟩
    rw [heq, run_of_read_ok hread, ho]
    rfl

/-- Of three rovers on two workers the second leaves the surface and the third cannot be placed. -/
theorem run_parallel_eq_of_three :
    (∀ n ∈ some (2 : Int), 1 ≤ n) ∧
      run ⟨true, some 2⟩ "1 1\n0 0 N\nM\n0 0 E\nMM\n9 9 N\nX".toList ⟨1, fun k => 3 * k + 1⟩ =
        .ok ⟨["0 1 N"], some (.robotOutOfBounds 1 2 0)⟩ ∧
      ∃ surface is, read "1 1\n0 0 N\nM\n0 0 E\nMM\n9 9 N\nX".toList = .ok (surface, is) ∧
        (Pool.run ⟨1, fun k => 3 * k + 1⟩ (some 2) Journey.failed (tasks surface 0 is)).duty =
          .left := by
  have hw : ∀ n ∈ some (2 : Int), 1 ≤ n := by simp
  obtain ⟨hrun, hpool⟩ := run_parallel_eq hw
    "1 1\n0 0 N\nM\n0 0 E\nMM\n9 9 N\nX".toList ⟨1, fun k => 3 * k + 1⟩
  have hread : read "1 1\n0 0 N\nM\n0 0 E\nMM\n9 9 N\nX".toList =
      .ok (⟨1, 1⟩, pairs (["0 0 N", "M", "0 0 E", "MM", "9 9 N", "X"].map String.toList)) := by
    decide
  refine ⟨hw, ?_, _, _, hread, (hpool _ _ hread).1⟩
  rw [hrun]
  decide +kernel

end Instructions

end Plateau

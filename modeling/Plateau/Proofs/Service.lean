import Plateau.Proofs.Message
import Plateau.Proofs.Parallel
import Plateau.Proofs.Telemetry.Traced
import Plateau.Service.Run

namespace Plateau

open Telemetry (Traced Tracer)
open Telemetry.Traced (Yields yields_pure yields_modify)

namespace Service

variable {machine : Machine}

open Instructions (runFrom)

theorem yields_lift {α : Type} (r : Except RunFault α) : (lift r).Yields r := fun _ => rfl

theorem yields_log (level : Log.Level) (event : String) : (log level event).Yields (.ok ()) :=
  yields_modify _

theorem yields_annotate (span : Option Nat) (facts : Fields) :
    (annotate span facts).Yields (.ok ()) := by
  cases span with
  | none => exact yields_pure ()
  | some id => exact yields_modify _

theorem runRover_yields (surface : Surface) (id : Nat) (i : Instruction) :
    (runRover surface id i).Yields ((i.run surface id).mapError .overflow) := by
  apply Yields.block
  intro span
  have hlift := yields_lift ((i.run surface id).mapError .overflow)
  cases hrun : (i.run surface id).mapError RunFault.overflow with
  | error e =>
    rw [hrun] at hlift
    exact hlift.bind_error _
  | ok journey =>
    rw [hrun] at hlift
    exact hlift.bind_ok ((yields_annotate _ _).bind_ok (yields_pure journey))

theorem runRovers_yields (surface : Surface) (id : Nat) (is : List Instruction) :
    (runRovers surface id is).Yields ((runFrom surface id is).mapError .overflow) := by
  induction is generalizing id with
  | nil => exact yields_pure _
  | cons i is ih =>
    have hrover := runRover_yields surface id i
    have hrest := ih (id + 1)
    rw [runRovers, runFrom]
    cases hrun : i.run surface id with
    | error e =>
      rw [hrun] at hrover
      exact hrover.bind_error _
    | ok journey =>
      rw [hrun] at hrover
      obtain ⟨placed, result⟩ := journey
      refine hrover.bind_ok ?_
      cases result with
      | error e => exact yields_pure _
      | ok position =>
        cases hlater : runFrom surface (id + 1) is with
        | error e =>
          rw [hlater] at hrest
          exact hrest.bind_error _
        | ok o =>
          rw [hlater] at hrest
          exact hrest.bind_ok (yields_pure _)

theorem runText_yields (config : RunnerConfig) (text : List Char) :
    (runText config text machine).Yields (Instructions.run config text machine) := by
  unfold runText Instructions.run
  cases Instructions.read text with
  | error e => exact yields_pure _
  | ok p =>
    dsimp only
    split
    · exact yields_lift _
    · exact runRovers_yields p.1 0 p.2

def answer (o : Outcome) : Except RunFault Report :=
  match o.error with
  | some e => (e.message.mapError .overflow).map (failureReport o e)
  | none => .ok { ok := true, op := "run", data := outcomeData o }

theorem answer_of_error {o : Outcome} {e : RunError} (he : o.error = some e) :
    answer o = (e.message.mapError .overflow).map (failureReport o e) := by
  rw [answer, he]

theorem runBody_yields {config : RunnerConfig} {text : List Char} {o : Outcome}
    (ho : Instructions.run config text machine = .ok o) (source : String) :
    (runBody config source text machine).Yields (answer o) := by
  refine (yields_log _ _).bind_ok ?_
  refine (ho ▸ runText_yields config text).bind_ok ?_
  obtain ⟨positions, error⟩ := o
  cases error with
  | none => exact (yields_log _ _).bind_ok (yields_pure _)
  | some e =>
    refine (yields_log _ _).bind_ok ?_
    rw [answer_of_error rfl]
    cases e.message with
    | error u => exact (yields_lift _).bind_error _
    | ok message => exact (yields_lift _).bind_ok (yields_pure _)

theorem runBody_yields_of_error {config : RunnerConfig} {text : List Char} {f : RunFault}
    (hf : Instructions.run config text machine = .error f) (source : String) :
    (runBody config source text machine).Yields (.error f) :=
  (yields_log _ _).bind_ok ((hf ▸ runText_yields config text).bind_error _)

end Service

def Report.bare (r : Report) : Report := { r with remarks := none }

/-- A report tells an outcome: its positions, and its failure with a message. -/
structure Report.Tells (r : Report) (o : Outcome) : Prop where
  ok : r.ok = o.ok
  op : r.op = "run"
  data : r.data = Service.outcomeData o
  no_error : o.error = none → r.error = none
  error : ∀ e ∈ o.error, ∃ message, e.message = .ok message ∧
    r.error = some ⟨e.kind.name, message, e.detail⟩

namespace Service

variable {machine : Machine}

theorem run_bare {config : RunnerConfig} {text : List Char} {o : Outcome}
    (ho : Instructions.run config text machine = .ok o) (source : String) (t : Tracer) :
    (run config source text machine t).1.map Report.bare = (answer o).map Report.bare := by
  refine (runBody_yields ho source).call ?_ t
  intro tree r
  rfl

theorem tells_of_answer {o : Outcome} {r : Report} (h : answer o = .ok r) :
    r.Tells o ∧ r.remarks = none := by
  obtain ⟨positions, error⟩ := o
  cases error with
  | none =>
    obtain rfl := Except.ok.inj h
    exact ⟨⟨rfl, rfl, rfl, fun _ => rfl, by simp⟩, rfl⟩
  | some e =>
    rw [answer_of_error rfl] at h
    obtain ⟨message, hmessage, rfl⟩ := map_eq_ok_iff.1 h
    refine ⟨⟨rfl, rfl, rfl, by simp, ?_⟩, rfl⟩
    intro d hd
    obtain rfl := Option.some.inj hd
    exact ⟨message, mapError_eq_ok_iff.1 hmessage, rfl⟩

theorem answer_of_printable {o : Outcome} (h : ∀ e ∈ o.error, e.Printable) :
    ∃ r, answer o = .ok r ∧ r.Tells o := by
  suffices hanswer : ∃ r, answer o = .ok r by
    obtain ⟨r, hr⟩ := hanswer
    exact ⟨r, hr, (tells_of_answer hr).1⟩
  obtain ⟨positions, error⟩ := o
  cases error with
  | none => exact ⟨_, rfl⟩
  | some e =>
    obtain ⟨message, hmessage⟩ := (RunError.exists_message_iff e).2 (h e rfl)
    rw [answer_of_error rfl, hmessage]
    exact ⟨_, rfl⟩

theorem answer_of_not_printable {o : Outcome} {e : RunError} (he : o.error = some e)
    (h : ¬e.Printable) : answer o = .error (.overflow .tooManyDigits) := by
  cases hmessage : e.message with
  | ok message => exact absurd ((RunError.exists_message_iff e).1 ⟨message, hmessage⟩) h
  | error u =>
    rw [answer_of_error he, hmessage]
    rfl

theorem tells_of_bare {r r' : Report} {o : Outcome} (h : r.bare = r'.bare) (ht : r'.Tells o) :
    r.Tells o := by
  obtain ⟨_, _, _, _, _⟩ := r
  obtain ⟨_, _, _, _, _⟩ := r'
  simp only [Report.bare, Report.mk.injEq, and_true] at h
  obtain ⟨rfl, rfl, rfl, rfl⟩ := h
  exact ⟨ht.ok, ht.op, ht.data, ht.no_error, ht.error⟩

theorem exists_report {config : RunnerConfig} {text : List Char} {o : Outcome}
    (ho : Instructions.run config text machine = .ok o) (h : ∀ e ∈ o.error, e.Printable)
    (source : String) (t : Tracer) :
    ∃ r, (run config source text machine t).1 = .ok r ∧ r.Tells o := by
  obtain ⟨r, hr, htells⟩ := answer_of_printable h
  have hbare := run_bare ho source t
  rw [hr] at hbare
  cases hanswer : (run config source text machine t).1 with
  | error f =>
    rw [hanswer] at hbare
    contradiction
  | ok r' =>
    rw [hanswer] at hbare
    exact ⟨r', rfl, tells_of_bare (Except.ok.inj hbare) htells⟩

theorem run_eq_overflow {config : RunnerConfig} {text : List Char} {o : Outcome} {e : RunError}
    (ho : Instructions.run config text machine = .ok o) (he : o.error = some e) (h : ¬e.Printable)
    (source : String) (t : Tracer) :
    (run config source text machine t).1 = .error (.overflow .tooManyDigits) := by
  have hbare := run_bare ho source t
  rw [answer_of_not_printable he h] at hbare
  cases hanswer : (run config source text machine t).1 with
  | error f =>
    rw [hanswer] at hbare
    exact hbare
  | ok r =>
    rw [hanswer] at hbare
    contradiction

/-- The service answers with a report that tells the outcome, unless the message of the failure
cannot be written.  In a text that can be had this happens exactly if the first rover to fail goes
past a bound to the least number that is too long; then no report is made. -/
theorem run_reports_unless_exceeded {config : RunnerConfig} (h : ∀ n ∈ config.maxWorkers, 1 ≤ n)
    (source : String) (text : List Char) (machine : Machine) (t : Tracer) :
    ∃ o, Instructions.run config text machine = .ok o ∧
      ((∀ e ∈ o.error, e.Printable) →
        ∃ r, (run config source text machine t).1 = .ok r ∧ r.Tells o) ∧
      ((∃ e ∈ o.error, ¬e.Printable) →
        (run config source text machine t).1 = .error (.overflow .tooManyDigits)) ∧
      (text.length < 2 ^ 63 → ((∃ e ∈ o.error, ¬e.Printable) ↔ Instructions.Exceeds text)) := by
  obtain ⟨o, ho⟩ := Instructions.exists_run text
  have hrun : Instructions.run config text machine = .ok o :=
    (Instructions.run_config_eq h text machine).trans ho
  refine ⟨o, hrun, fun hprintable => exists_report hrun hprintable source t, ?_, ?_⟩
  · rintro ⟨e, he, hnot⟩
    exact run_eq_overflow hrun he hnot source t
  · intro hlen
    have hiff := Instructions.printable_iff (Numeral.lt_tooLong (by omega)) ho
    rw [← not_iff_not, ← hiff]
    simp

/-- Two workers, tracing on, and a rover that leaves its surface. -/
theorem run_reports_of_one :
    (∀ n ∈ some (2 : Int), 1 ≤ n) ∧
      ∃ r, (run ⟨true, some 2⟩ "here" "1 1\n0 0 N\nMM".toList {}
          { enabled := true, clock := .every 7 }).1 = .ok r ∧
        r.ok = false ∧
        r.error = some ⟨"RobotOutOfBounds", "robot ID 0 has moved out of bounds - X: 0 Y: 2",
          [("rover_id", .int 0), ("x", .int 0), ("y", .int 2)]⟩ := by
  have hw : ∀ n ∈ some (2 : Int), 1 ≤ n := by simp
  let config : RunnerConfig := ⟨true, some 2⟩
  obtain ⟨o, ho, hreport, -, -⟩ := @run_reports_unless_exceeded config hw "here"
    "1 1\n0 0 N\nMM".toList {} { enabled := true, clock := .every 7 }
  have hrun : Instructions.run config "1 1\n0 0 N\nMM".toList =
      .ok ⟨[], some (.robotOutOfBounds 0 0 2)⟩ := by
    decide +kernel
  obtain rfl : o = _ := Except.ok.inj (ho.symm.trans hrun)
  have hprintable : (RunError.robotOutOfBounds 0 0 2).Printable := by
    intro n hn
    have hn : n = 0 ∨ n = 2 := by simpa [RunError.numbers, RunError.detail] using hn
    exact Numeral.lt_tooLong (by omega)
  obtain ⟨r, hr, htells⟩ := hreport (by simpa using hprintable)
  obtain ⟨message, hmessage, herror⟩ := htells.error _ rfl
  have hwritten : (RunError.robotOutOfBounds 0 0 2).message =
      .ok "robot ID 0 has moved out of bounds - X: 0 Y: 2" := by
    decide +kernel
  obtain rfl := Except.ok.inj (hwritten.symm.trans hmessage)
  exact ⟨hw, r, hr, htells.ok, herror⟩

/-- No report is made on the text at the limit. -/
theorem run_reports_nothing_at_edge :
    (run {} defaultSource (Instructions.edge Numeral.digitLimit) {} { clock := .every 0 }).1 =
        .error (.overflow .tooManyDigits) ∧
      ¬∃ r, (run {} defaultSource (Instructions.edge Numeral.digitLimit) {}
        { clock := .every 0 }).1 = .ok r := by
  obtain ⟨surface, is, o, e, -, ho, he, hexceeded⟩ := Instructions.exceeds_edge
  have hnot : ¬e.Printable := fun hprintable =>
    Surface.not_exceeded_of_printable hprintable hexceeded
  have heq := run_eq_overflow ho he hnot defaultSource { clock := .every 0 }
  refine ⟨heq, ?_⟩
  rintro ⟨r, hr⟩
  rw [heq] at hr
  cases hr

end Service

end Plateau

import Plateau.Cli.App
import Plateau.Proofs.Telemetry.Conduct
import Plateau.Proofs.Telemetry.Leaves

namespace Plateau

open Console (Device)
open Service (Discreet Proper)
open Telemetry (Tracer)

namespace Cli

variable {env : Surroundings} {s s' : Settings} {work work' : Service.Work Report}

theorem not_writes_of_discreet (hverbose : s.verbose = false) {loggers : Log.Loggers}
    (hdecided : ∀ d ∈ loggers.decided, d.2 = false) {m : Log.Record} (hm : Discreet m) :
    (logSetup s).writes loggers m = false := by
  have hown : Log.Level.warning.severity ≤ (logSetup s).ownLevel.severity := by
    simp only [logSetup, Log.Setup.configure, Log.Options.threshold, hverbose]
    rw [if_neg Bool.false_ne_true]
    split <;> decide
  have hthreshold : Log.Level.warning.severity ≤
      ((logSetup s).threshold loggers.known m.logger).severity := by
    unfold Log.Setup.threshold
    split
    · exact hown
    · exact Nat.le_refl _
  have hm : m.level.severity < Log.Level.warning.severity := hm
  rcases (logSetup s).writes_cases loggers m with hwrites | hmem
  · rw [hwrites, decide_eq_false_iff_not]
    exact Nat.not_le_of_lt (hm.trans_le hthreshold)
  · exact hdecided _ hmem

theorem emitAll_of_discreet (hverbose : s.verbose = false) (stamp : String)
    {messages : List Log.Record} (h : ∀ m ∈ messages, Discreet m) :
    (logSetup s).emitAll stamp messages = [] := by
  have hfrom {loggers : Log.Loggers} (hdecided : ∀ d ∈ loggers.decided, d.2 = false) :
      (logSetup s).emitFrom loggers (messages.map fun m => (stamp, m)) = [] := by
    induction messages generalizing loggers with
    | nil => rfl
    | cons m messages ih =>
      obtain ⟨hm, hmessages⟩ := List.forall_mem_cons.1 h
      have hsilent := not_writes_of_discreet hverbose hdecided hm
      have hafter : ∀ d ∈ ((logSetup s).after loggers m).decided, d.2 = false :=
        List.forall_mem_cons.2 ⟨hsilent, hdecided⟩
      rw [List.map_cons, Log.Setup.emitFrom, Log.Setup.emit, hsilent, ih hmessages hafter]
      rfl
  exact hfrom (List.forall_mem_nil _)

def firstTracer (env : Surroundings) (s : Settings) : Tracer :=
  { enabled := s.verbose, clock := env.clock }

def logOf (env : Surroundings) (s : Settings) (work : Service.Work Report) : List Char :=
  (logSetup s).emitAll env.stamp (work (firstTracer env s)).2.log

/-- What a call emits that does some work, or what ends it. -/
def emission (env : Surroundings) (s : Settings) (work : Service.Work Report) :
    Except Crash Reply := do
  let report ← (work (firstTracer env s)).1.mapError .run
  (emitReport env.device s.outputSettings report).mapError .render

def replyOf : Except Crash Reply → Reply
  | .error crash => .crashed [] crash
  | .ok reply => reply

theorem perform_eq (env : Surroundings) (s : Settings) (work : Service.Work Report) :
    perform env s work =
      { replyOf (emission env s work) with
        errors := logOf env s work ++ (replyOf (emission env s work)).errors } := by
  unfold perform emission logOf firstTracer
  rcases work { enabled := s.verbose, clock := env.clock } with ⟨fault | report, t⟩
  · simp [Except.mapError, bind, Except.bind, replyOf, Reply.crashed]
  · dsimp only [Except.mapError, bind, Except.bind]
    cases emitReport env.device s.outputSettings report <;> simp [replyOf, Reply.crashed]

theorem perform_of_silent (hverbose : s.verbose = false) (h : Proper work) :
    perform env s work = replyOf (emission env s work) := by
  obtain ⟨messages, hlog, hdiscreet⟩ := h.log (firstTracer env s)
  have hempty : logOf env s work = [] := by
    rw [logOf, hlog]
    exact emitAll_of_discreet hverbose _ hdiscreet
  rw [perform_eq, hempty]
  rfl

theorem crash_of_emitReport {device : Device} {settings : OutputSettings} {r : Report}
    {reply : Reply} (h : emitReport device settings r = .ok reply) : reply.crash = none := by
  obtain ⟨text, -, h⟩ := bind_eq_ok_iff.1 h
  split at h
  · obtain rfl := Except.ok.inj h
    rfl
  · obtain ⟨partialText, -, h⟩ := bind_eq_ok_iff.1 h
    obtain rfl := Except.ok.inj h
    rfl

def quietReply (r : Report) : Reply :=
  let positions := Report.outputOf (.record r.data)
  if r.ok then { output := line r.renderQuiet }
  else
    { output := if positions.isEmpty then [] else line positions
      errors := line r.renderQuiet
      exitCode := 1 }

theorem emitReport_quiet {settings : OutputSettings} (hjson : settings.json = false)
    (hquiet : settings.quiet = true) (device : Device) (r : Report) :
    emitReport device settings r = .ok (quietReply r) := by
  cases hok : r.ok <;>
    simp [emitReport, Report.format, Report.formatPartial, quietReply, hjson, hquiet, hok, bind,
      Except.bind, pure, Except.pure]

theorem emission_quiet (hjson : s.json = false) (hquiet : s.quiet = true)
    (work : Service.Work Report) :
    emission env s work = quietReply <$> (work (firstTracer env s)).1.mapError .run := by
  unfold emission
  cases (work (firstTracer env s)).1 with
  | error fault => rfl
  | ok r =>
    change (emitReport env.device s.outputSettings r).mapError Crash.render = .ok (quietReply r)
    rw [emitReport_quiet hjson hquiet]
    rfl

theorem quietReply_congr {x y : Except RunFault Report}
    (h : x.map Report.bare = y.map Report.bare) :
    quietReply <$> x.mapError Crash.run = quietReply <$> y.mapError Crash.run := by
  have hbare (z : Except RunFault Report) :
      quietReply <$> z.mapError Crash.run = quietReply <$> (z.map Report.bare).mapError .run := by
    cases z <;> rfl
  rw [hbare x, hbare y, h]

/-- The replies give the same result: they differ in the errors at most. -/
structure Reply.SameResult (r r' : Reply) : Prop where
  output : r.output = r'.output
  exitCode : r.exitCode = r'.exitCode

theorem Reply.SameResult.refl (r : Reply) : r.SameResult r := ⟨rfl, rfl⟩

theorem perform_sameResult (h : emission env s work = emission env s' work') :
    (perform env s work).SameResult (perform env s' work') := by
  rw [perform_eq, perform_eq, h]
  exact ⟨rfl, rfl⟩

end Cli

namespace Service

theorem run_of_disabled {config : RunnerConfig} {machine : Machine} {text : List Char} {o : Outcome}
    (ho : Instructions.run config text machine = .ok o) (source : String) {t : Tracer}
    (ht : t.enabled = false) : (run config source text machine t).1 = answer o := by
  have huntraced : operation "RunnerService.run" (runBody config source text machine) t =
      runBody config source text machine t :=
    Telemetry.Traced.call_of_disabled ht
  rw [run, huntraced]
  exact runBody_yields ho source t

end Service

namespace Cli

def emissionOf (device : Device) (settings : OutputSettings) (o : Outcome) :
    Except Crash Reply := do
  let report ← (Service.answer o).mapError .run
  (emitReport device settings report).mapError .render

variable {env : Surroundings} {s : Settings} {text : List Char} {o : Outcome}

/-- A run that gives no details replies by its outcome and the form of the output alone. -/
theorem perform_run_of_silent (hverbose : s.verbose = false)
    (hworkers : ∀ n ∈ s.runnerConfig.maxWorkers, 1 ≤ n) (ho : Instructions.run {} text = .ok o)
    (source : String) (machine : Machine) :
    perform env s (Service.run s.runnerConfig source text machine) =
      replyOf (emissionOf env.device s.outputSettings o) := by
  have hrun : Instructions.run s.runnerConfig text machine = .ok o :=
    (Instructions.run_config_eq hworkers text machine).trans ho
  rw [perform_of_silent hverbose (Service.proper_run hworkers source text), emission,
    Service.run_of_disabled hrun source hverbose]
  rfl

/-- As bare positions a run emits the same, whether details are logged or not. -/
theorem emission_run_quiet (hjson : s.json = false) (hquiet : s.quiet = true)
    (hworkers : ∀ n ∈ s.runnerConfig.maxWorkers, 1 ≤ n) (ho : Instructions.run {} text = .ok o)
    (source : String) (machine : Machine) :
    emission env s (Service.run s.runnerConfig source text machine) =
      quietReply <$> (Service.answer o).mapError .run := by
  have hrun : Instructions.run s.runnerConfig text machine = .ok o :=
    (Instructions.run_config_eq hworkers text machine).trans ho
  rw [emission_quiet hjson hquiet]
  exact quietReply_congr (Service.run_bare hrun source (firstTracer env s))

end Cli

end Plateau

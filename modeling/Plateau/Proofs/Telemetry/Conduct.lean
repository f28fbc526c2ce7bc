import Plateau.Proofs.Service
import Plateau.Service.Demo

namespace Plateau

open Telemetry (Traced Tracer)
open Log (Level Record)

namespace Telemetry

namespace Tracer

theorem log_enterBlock (name : String) (t : Tracer) : (t.enterBlock name).2.log = t.log := by
  unfold enterBlock
  split <;> rfl

theorem log_leaveBlock (opened : Option Opened) (t : Tracer) :
    (t.leaveBlock opened).log = t.log := by
  cases opened <;> rfl

theorem log_enterCall (name : String) (t : Tracer) : (t.enterCall name).2.log = t.log := by
  unfold enterCall
  split <;> rfl

theorem log_leaveCall (opened : Option Opened) (ok : Bool) (t : Tracer) :
    ∃ messages, (t.leaveCall opened ok).2.log = t.log ++ messages ∧
      ∀ m ∈ messages, ∃ tree, m = completion tree ok := by
  cases opened with
  | none => exact ⟨[], (List.append_nil t.log).symm, by simp⟩
  | some o =>
    unfold leaveCall
    dsimp only
    split
    · exact ⟨[], (List.append_nil t.log).symm, by simp⟩
    · rename_i tree _
      exact ⟨[completion tree ok], rfl, by simpa using ⟨tree, rfl⟩⟩

end Tracer

namespace Traced

variable {ε α β : Type} {blame : ε → Prop} {say : Record → Prop} {x : Traced ε α}

def Silent (x : Traced ε α) : Prop := ∀ t, (x t).2.log = t.log

theorem silent_pure (a : α) : (pure a : Traced ε α).Silent := fun _ => rfl

theorem Silent.bind (hx : x.Silent) {f : α → Traced ε β} (hf : ∀ a, (f a).Silent) :
    (x >>= f).Silent := by
  intro t
  cases hxt : (x t).1 with
  | error e => rw [bind_apply_of_error hxt, hx]
  | ok a => rw [bind_apply_of_ok hxt, hf, hx]

theorem Silent.block {name : String} {body : Option Nat → Traced ε α}
    (h : ∀ span, (body span).Silent) : (Traced.block name body).Silent := by
  intro t
  calc (Traced.block name body t).2.log
      = (body ((t.enterBlock name).1.map (·.id)) (t.enterBlock name).2).2.log :=
      Tracer.log_leaveBlock _ _
    _ = (t.enterBlock name).2.log := h _ _
    _ = t.log := t.log_enterBlock name

theorem log_call (name : String) (ok : α → Bool) (attach : Value → α → α) (x : Traced ε α)
    (t : Tracer) :
    ∃ completions, (Traced.call name ok attach x t).2.log =
        (x (t.enterCall name).2).2.log ++ completions ∧
      ∀ m ∈ completions, ∃ tree good, m = Tracer.completion tree good := by
  obtain ⟨good, hafter, -⟩ := call_apply name ok attach x t
  obtain ⟨completions, hlog, hcompletion⟩ :=
    (x (t.enterCall name).2).2.log_leaveCall (t.enterCall name).1 good
  refine ⟨completions, by rw [hafter, hlog], fun m hm => ?_⟩
  obtain ⟨tree, rfl⟩ := hcompletion m hm
  exact ⟨tree, good, rfl⟩

/-- Whatever was traced before, the work ends with no errors but these, and logs no messages but
these. -/
structure Behaves (blame : ε → Prop) (say : Record → Prop) (x : Traced ε α) : Prop where
  error : ∀ t e, (x t).1 = .error e → blame e
  log : ∀ t, ∃ messages, (x t).2.log = t.log ++ messages ∧ ∀ m ∈ messages, say m

theorem behaves_of_silent (hlog : x.Silent) (herror : ∀ t e, (x t).1 = .error e → blame e) :
    x.Behaves blame say where
  error := herror
  log t := ⟨[], by rw [hlog, List.append_nil], by simp⟩

theorem behaves_pure (a : α) : (pure a : Traced ε α).Behaves blame say :=
  behaves_of_silent (silent_pure a) (by intro t e he; contradiction)

theorem behaves_log {r : Record} (h : say r) :
    (modify (Tracer.logRecord r) : Traced ε Unit).Behaves blame say where
  error t e he := by contradiction
  log t := ⟨[r], rfl, by simpa using h⟩

theorem Behaves.bind (hx : x.Behaves blame say) {f : α → Traced ε β}
    (hf : ∀ a, (f a).Behaves blame say) : (x >>= f).Behaves blame say where
  error t e he := by
    cases hxt : (x t).1 with
    | error d =>
      rw [bind_apply_of_error hxt] at he
      obtain rfl := Except.error.inj he
      exact hx.error t d hxt
    | ok a =>
      rw [bind_apply_of_ok hxt] at he
      exact (hf a).error _ e he
  log t := by
    obtain ⟨messages, hlog, hsay⟩ := hx.log t
    cases hxt : (x t).1 with
    | error d =>
      rw [bind_apply_of_error hxt]
      exact ⟨messages, hlog, hsay⟩
    | ok a =>
      obtain ⟨more, hmore, hlater⟩ := (hf a).log (x t).2
      rw [bind_apply_of_ok hxt]
      refine ⟨messages ++ more, by rw [hmore, hlog, List.append_assoc], ?_⟩
      exact List.forall_mem_append.2 ⟨hsay, hlater⟩

theorem Behaves.block {name : String} {body : Option Nat → Traced ε α}
    (h : ∀ span, (body span).Behaves blame say) : (Traced.block name body).Behaves blame say where
  error t e he := (h _).error _ e he
  log t := by
    obtain ⟨messages, hlog, hsay⟩ :=
      (h ((t.enterBlock name).1.map (·.id))).log (t.enterBlock name).2
    refine ⟨messages, ?_, hsay⟩
    rw [← t.log_enterBlock name, ← hlog]
    exact Tracer.log_leaveBlock _ _

theorem Behaves.call {name : String} {ok : α → Bool} {attach : Value → α → α}
    (h : x.Behaves blame say) (hsay : ∀ tree good, say (Tracer.completion tree good)) :
    (Traced.call name ok attach x).Behaves blame say where
  error t e he := by
    obtain ⟨good, -, hresult⟩ := call_apply name ok attach x t
    rw [hresult] at he
    cases hx : (x (t.enterCall name).2).1 with
    | error d =>
      rw [hx] at he
      obtain rfl := Except.error.inj he
      exact h.error _ d hx
    | ok a =>
      rw [hx] at he
      contradiction
  log t := by
    obtain ⟨messages, hlog, hmessages⟩ := h.log (t.enterCall name).2
    obtain ⟨more, hmore, hcompletion⟩ := log_call name ok attach x t
    refine ⟨messages ++ more, ?_, ?_⟩
    · rw [hmore, hlog, t.log_enterCall, List.append_assoc]
    · apply List.forall_mem_append.2 ⟨hmessages, fun m hm => ?_⟩
      obtain ⟨tree, good, rfl⟩ := hcompletion m hm
      exact hsay tree good

end Traced

end Telemetry

namespace Service

variable {α : Type} {config : RunnerConfig} {machine : Machine} {machines : Nat → Machine}

/-- The message is less severe than a warning. -/
def Discreet (m : Record) : Prop := m.level.severity < Level.warning.severity

def Overflows (f : RunFault) : Prop := ∃ o, f = .overflow o

/-- Work that fails only over a number that is too long, and logs nothing severe. -/
abbrev Proper (x : Work α) : Prop := x.Behaves Overflows Discreet

theorem proper_pure (a : α) : Proper (pure a : Work α) := Traced.behaves_pure a

theorem silent_lift (r : Except RunFault α) : (lift r).Silent := fun _ => rfl

theorem proper_lift {r : Except RunFault α} (h : ∀ f, r = .error f → Overflows f) :
    Proper (lift r) :=
  Traced.behaves_of_silent (silent_lift r) fun _ => h

theorem proper_overflow (r : Except Numeral.Overflow α) : Proper (lift (r.mapError .overflow)) := by
  apply proper_lift
  intro f hf
  cases r with
  | error o => exact ⟨o, (Except.error.inj hf).symm⟩
  | ok a => contradiction

theorem proper_log {level : Level} (h : level.severity < Level.warning.severity) (event : String) :
    Proper (log level event) :=
  Traced.behaves_log h

theorem silent_annotate (span : Option Nat) (facts : Fields) : (annotate span facts).Silent := by
  cases span with
  | none => exact Traced.silent_pure ()
  | some id => exact fun _ => rfl

theorem silent_runRover (surface : Surface) (id : Nat) (i : Instruction) :
    (runRover surface id i).Silent := by
  apply Traced.Silent.block
  intro span
  apply (silent_lift _).bind
  intro journey
  exact (silent_annotate _ _).bind fun _ => Traced.silent_pure journey

theorem silent_runRovers (surface : Surface) (id : Nat) (is : List Instruction) :
    (runRovers surface id is).Silent := by
  induction is generalizing id with
  | nil => exact Traced.silent_pure _
  | cons i is ih =>
    apply (silent_runRover surface id i).bind
    intro journey
    cases journey.result with
    | error e => exact Traced.silent_pure _
    | ok position => exact (ih (id + 1)).bind fun o => Traced.silent_pure _

theorem silent_runText (config : RunnerConfig) (text : List Char) (machine : Machine) :
    (runText config text machine).Silent := by
  unfold runText
  cases Instructions.read text with
  | error e => exact Traced.silent_pure _
  | ok p =>
    dsimp only
    split
    · exact silent_lift _
    · exact silent_runRovers p.1 0 p.2

theorem proper_runText (h : ∀ n ∈ config.maxWorkers, 1 ≤ n) (text : List Char) :
    Proper (runText config text machine) := by
  apply Traced.behaves_of_silent (silent_runText config text machine)
  intro t f hf
  obtain ⟨o, ho⟩ := Instructions.exists_run text
  rw [runText_yields, Instructions.run_config_eq h, ho] at hf
  contradiction

theorem proper_runBody (h : ∀ n ∈ config.maxWorkers, 1 ≤ n) (source : String) (text : List Char) :
    Proper (runBody config source text machine) := by
  apply (proper_log (by decide) _).bind
  intro _
  apply (proper_runText h text).bind
  intro o
  cases o.error with
  | none => exact (proper_log (by decide) _).bind fun _ => proper_pure _
  | some e =>
    exact (proper_log (by decide) _).bind fun _ =>
      (proper_overflow e.message).bind fun message => proper_pure _

theorem proper_operation {name : String} {body : Work Report} (h : Proper body) :
    Proper (operation name body) :=
  h.call fun _ _ => (by decide : Level.debug.severity < Level.warning.severity)

theorem proper_run (h : ∀ n ∈ config.maxWorkers, 1 ≤ n) (source : String) (text : List Char) :
    Proper (run config source text machine) :=
  proper_operation (proper_runBody h source text)

theorem proper_showScenario (h : ∀ n ∈ config.maxWorkers, 1 ≤ n) (s : Scenario) :
    Proper (showScenario config machine s) := by
  apply (Traced.Behaves.block fun _ => proper_runText h s.input.toList).bind
  intro o
  cases o.error with
  | none => exact proper_pure _
  | some e =>
    dsimp only
    rw [map_eq_pure_bind]
    exact ((proper_overflow e.message).bind fun _ => proper_pure _).bind fun _ => proper_pure _

theorem proper_showScenarios (h : ∀ n ∈ config.maxWorkers, 1 ≤ n) (scenarios : List Scenario) :
    Proper (showScenarios config machines scenarios) := by
  induction scenarios generalizing machines with
  | nil => exact proper_pure _
  | cons s rest ih =>
    exact (proper_showScenario h s).bind fun shown => ih.bind fun _ => proper_pure _

theorem proper_demo (h : ∀ n ∈ config.maxWorkers, 1 ≤ n) (scenarios : List Scenario) :
    Proper (demo config scenarios machines) :=
  proper_operation ((proper_showScenarios h scenarios).bind fun _ => proper_pure _)

end Service

end Plateau

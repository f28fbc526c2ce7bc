import Plateau.Proofs.Service
import Plateau.Proofs.Telemetry.Leaves

namespace Plateau

open Telemetry (Outline Traced Tracer)
open Telemetry.Traced (Yields Leaves leaves_of_still leaves_pure leaves_log leaves_record
  returns_bind returns_pure)

namespace Service

variable {α β : Type} {machine : Machine}

/-- Work whose result, messages and blocks are the same whatever was traced before, and that logs
nothing but what the service says. -/
def Steady (x : Work α) (blocks : List Outline) : Prop :=
  ∃ r messages, x.Yields r ∧ (∀ m ∈ messages, m.logger = logger) ∧
    ∀ span, x.Leaves span messages [] blocks

section Pieces

variable {x : Work α} {f : α → Work β} {blocks rest : List Outline}

theorem steady_lift (r : Except RunFault α) : Steady (lift r) [] :=
  ⟨r, [], yields_lift r, by simp, leaves_of_still fun _ => rfl⟩

theorem steady_pure (a : α) : Steady (pure a : Work α) [] :=
  steady_lift (.ok a)

theorem steady_log (level : Log.Level) (event : String) : Steady (log level event) [] := by
  refine ⟨.ok (), [_], yields_log level event, ?_, leaves_log _⟩
  intro m hm
  rw [List.mem_singleton.1 hm]

theorem Steady.bind_ok {a : α} (hresult : x.Yields (.ok a)) (hx : Steady x blocks)
    (hf : Steady (f a) rest) : Steady (x >>= f) (blocks ++ rest) := by
  obtain ⟨_, messages, -, hown, hleaves⟩ := hx
  obtain ⟨s, more, hyields, hmore, hlater⟩ := hf
  refine ⟨s, messages ++ more, hresult.bind_ok hyields, ?_, ?_⟩
  · intro m hm
    rcases List.mem_append.1 hm with hm | hm
    · exact hown m hm
    · exact hmore m hm
  · intro span
    exact (hleaves span).bind_ok hresult (hlater span)

theorem Steady.bind_error {e : RunFault} (hresult : x.Yields (.error e)) (hx : Steady x blocks)
    (f : α → Work β) : Steady (x >>= f) blocks := by
  obtain ⟨_, messages, -, hown, hleaves⟩ := hx
  exact ⟨.error e, messages, hresult.bind_error f, hown,
    fun span => (hleaves span).bind_error hresult f⟩

theorem Steady.bind (hx : Steady x blocks) (hf : ∀ a, Steady (f a) []) :
    Steady (x >>= f) blocks := by
  obtain ⟨r, messages, hresult, -⟩ := id hx
  cases r with
  | error e => exact hx.bind_error hresult f
  | ok a =>
    rw [← List.append_nil blocks]
    exact hx.bind_ok hresult (hf a)

theorem Steady.exists_bind (hx : Steady x blocks) (hf : ∀ a, ∃ rest, Steady (f a) rest) :
    ∃ all, Steady (x >>= f) all := by
  obtain ⟨r, messages, hresult, -⟩ := id hx
  cases r with
  | error e => exact ⟨blocks, hx.bind_error hresult f⟩
  | ok a =>
    obtain ⟨rest, hrest⟩ := hf a
    exact ⟨blocks ++ rest, hx.bind_ok hresult hrest⟩

theorem Steady.block (hx : Steady x blocks) (name : String) :
    Steady (Traced.block name fun _ => x) [.node name [] blocks] := by
  obtain ⟨r, messages, hresult, hown, hleaves⟩ := hx
  exact ⟨r, messages, .block fun _ => hresult, hown, Leaves.block hleaves⟩

end Pieces

/-- What the span of a rover tells: nothing if the rover is not placed. -/
def roverFacts (surface : Surface) (id : Nat) (i : Instruction) : Fields :=
  match Rover.place id i.placement surface with
  | .error _ => []
  | .ok _ =>
    [("commands", .int (Text.trim i.commands).length), ("ok", .bool (!i.fails surface))]

def roverBlock (surface : Surface) (id : Nat) (i : Instruction) : Outline :=
  .node (Tracer.roverStem ++ toString id) (roverFacts surface id i) []

/-- The blocks of rovers that are numbered from `id` on, up to the first that fails. -/
def roverBlocks (surface : Surface) (id : Nat) : List Instruction → List Outline
  | [] => []
  | i :: rest =>
    roverBlock surface id i :: if i.fails surface then [] else roverBlocks surface (id + 1) rest

def textBlocks (config : RunnerConfig) (text : List Char) : List Outline :=
  match Instructions.read text with
  | .error _ => []
  | .ok (surface, is) => if config.parallel then [] else roverBlocks surface 0 is

theorem journeyFacts_eq {surface : Surface} (hs : surface.Writable) {id : Nat} {i : Instruction}
    {j : Journey} (h : i.run surface id = .ok j) :
    .ofPairs (journeyFacts i j) = roverFacts surface id i := by
  cases hplace : Rover.place id i.placement surface with
  | error e =>
    rw [Instruction.run_of_place_error hplace] at h
    obtain rfl := Except.ok.inj h
    rw [roverFacts, hplace]
    rfl
  | ok r =>
    rw [Instruction.run_of_place_ok hs hplace] at h
    obtain rfl := Except.ok.inj h
    rw [roverFacts, hplace]
    cases hfails : i.fails surface with
    | true =>
      obtain ⟨e, he⟩ := (Instruction.fails_eq_true_iff id).1 hfails
      rw [he]
      rfl
    | false =>
      obtain ⟨t, ht⟩ := (Instruction.fails_eq_false_iff id).1 hfails
      rw [ht]
      rfl

theorem leaves_annotate (span : Option Nat) (facts : Fields) :
    (annotate span facts).Leaves span [] facts [] := by
  cases span with
  | none =>
    refine ⟨fun t => (List.append_nil t.log).symm, ?_⟩
    intro cur hcur
    contradiction
  | some id => exact leaves_record id facts

theorem steady_runRover {surface : Surface} (hs : surface.Writable) (id : Nat) (i : Instruction) :
    Steady (runRover surface id i) [roverBlock surface id i] := by
  obtain ⟨placed, hrun⟩ := i.run_eq hs id
  refine ⟨_, [], runRover_yields surface id i, by simp, ?_⟩
  rw [roverBlock, ← journeyFacts_eq hs hrun, ← List.append_nil (journeyFacts _ _)]
  apply Leaves.block
  intro inner
  rw [hrun]
  have hstill : (lift (.ok ⟨placed, (i.alone surface id).map Rover.text⟩) : Work Journey).Leaves
      inner [] [] [] :=
    leaves_of_still (fun _ => rfl) inner
  apply hstill.bind_ok (yields_lift _)
  exact (leaves_annotate inner _).bind_ok (yields_annotate inner _) (leaves_pure _ inner)

theorem steady_runRovers {surface : Surface} (hs : surface.Writable) (id : Nat)
    (is : List Instruction) : Steady (runRovers surface id is) (roverBlocks surface id is) := by
  induction is generalizing id with
  | nil => exact steady_pure _
  | cons i is ih =>
    have hrover := steady_runRover hs id i
    have hyields := runRover_yields surface id i
    obtain ⟨placed, hrun⟩ := i.run_eq hs id
    rw [hrun] at hyields
    rw [runRovers, roverBlocks, ← List.singleton_append]
    apply hrover.bind_ok hyields
    cases hfails : i.fails surface with
    | true =>
      obtain ⟨e, he⟩ := (Instruction.fails_eq_true_iff id).1 hfails
      rw [he]
      exact steady_pure _
    | false =>
      obtain ⟨t, ht⟩ := (Instruction.fails_eq_false_iff id).1 hfails
      rw [ht]
      exact (ih (id + 1)).bind fun o => steady_pure _

theorem steady_runText (config : RunnerConfig) (text : List Char) :
    Steady (runText config text machine) (textBlocks config text) := by
  rw [runText, textBlocks]
  cases hread : Instructions.read text with
  | error e => exact steady_pure _
  | ok p =>
    have hs := Instructions.writable_of_read hread
    dsimp only
    cases config.parallel with
    | true => exact steady_lift _
    | false => exact steady_runRovers hs 0 p.2

theorem steady_runBody (config : RunnerConfig) (source : String) (text : List Char) :
    Steady (runBody config source text machine) (textBlocks config text) := by
  have hstart := steady_log .debug
    s!"run.start source={source} parallel={boolText config.parallel}"
  apply hstart.bind_ok (yields_log _ _)
  apply (steady_runText config text).bind
  intro o
  cases o.error with
  | none => exact (steady_log _ _).bind fun _ => steady_pure _
  | some e => exact (steady_log _ _).bind fun _ => (steady_lift _).bind fun _ => steady_pure _

theorem returns_runBody (config : RunnerConfig) (source : String) (text : List Char) :
    (runBody config source text machine).Returns fun r => r.remarks = none := by
  apply returns_bind
  intro _
  apply returns_bind
  intro o
  cases o.error with
  | none => exact returns_bind _ fun _ => returns_pure rfl
  | some e => exact returns_bind _ fun _ => returns_bind _ fun _ => returns_pure rfl

theorem remarks_withTelemetry {r : Report} (h : r.remarks = none) (tree : Value) :
    (r.withTelemetry tree).remarks = some [(Report.telemetryKey, tree)] := by
  rw [Report.withTelemetry, h]
  rfl

end Service

end Plateau

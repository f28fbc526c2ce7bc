import Mathlib.Data.List.Forall2
import Plateau.Proofs.Parallel
import Plateau.Proofs.Text.Frame

namespace Plateau

open Text

theorem Surface.ofLine_trim (line : List Char) : ofLine (trim line) = ofLine line := by
  simp only [ofLine, words_trim, trim_trim]

namespace Rover

theorem place_trim (id : Int) (line : List Char) (surface : Surface) :
    place id (trim line) surface = place id line surface := by
  simp only [place, words_trim, trim_trim]

theorem guide_trim (surface : Surface) (commands : List Char) (r : Rover) :
    r.guide surface (trim commands) = r.guide surface commands := by
  rw [guide, trim_trim, guide]

end Rover

namespace Instruction

def trimmed (i : Instruction) : Instruction := ⟨trim i.placement, trim i.commands⟩

theorem run_trimmed (surface : Surface) (id : Nat) (i : Instruction) :
    i.trimmed.run surface id = i.run surface id := by
  simp only [run, trimmed, Rover.place_trim, Rover.guide_trim]

end Instruction

namespace Instructions

def readLines : List (List Char) → Except RunError (Surface × List Instruction)
  | [] => .error (.tooFewLines 0)
  | first :: rest => do
    checkShape (first :: rest)
    let surface ← Surface.ofLine first
    return (surface, pairs rest)

def guideAll (config : RunnerConfig) (machine : Machine) (surface : Surface)
    (is : List Instruction) : Except RunFault Outcome :=
  if config.parallel then runPool config.maxWorkers surface is machine
  else (runFrom surface 0 is).mapError .overflow

def runLines (config : RunnerConfig) (machine : Machine) (ls : List (List Char)) :
    Except RunFault Outcome :=
  match readLines ls with
  | .error e => .ok (.failed e)
  | .ok (surface, is) => guideAll config machine surface is

variable {config : RunnerConfig} {machine : Machine} {surface : Surface}

theorem run_eq_runLines (text : List Char) :
    run config text machine = runLines config machine (split text) := by
  have hread : read text = readLines (split text) := by
    unfold read readLines
    rfl
  rw [run, hread, runLines]
  rfl

theorem guideAll_congr {is js : List Instruction} (h : tasks surface 0 is = tasks surface 0 js) :
    guideAll config machine surface is = guideAll config machine surface js := by
  rw [guideAll, guideAll, runPool, runPool, ← collect_readThrough, ← collect_readThrough, h]

theorem guideAll_eq {is : List Instruction} {o : Outcome}
    (h : guideAll config machine surface is = .ok o) (js : List Instruction) :
    guideAll config machine surface js = (runFrom surface 0 js).mapError .overflow := by
  cases hp : config.parallel with
  | false => rw [guideAll, hp, if_neg Bool.false_ne_true]
  | true =>
    rw [guideAll, hp, if_pos rfl] at h ⊢
    obtain ⟨_, hcheck, -⟩ := bind_eq_ok_iff.1 h
    exact runPool_eq (workers_of_checkWorkers hcheck) surface js machine

theorem tasks_map_trimmed (id : Nat) (is : List Instruction) :
    tasks surface id (is.map Instruction.trimmed) = tasks surface id is := by
  induction is generalizing id with
  | nil => rfl
  | cons i is ih => rw [List.map_cons, tasks, tasks, i.run_trimmed, ih]

theorem pairs_map_trim (ls : List (List Char)) :
    pairs (ls.map trim) = (pairs ls).map Instruction.trimmed := by
  induction ls using pairs_induction with
  | nil => rfl
  | single l => simp
  | pair placement commands rest ih =>
    simp only [List.map_cons, pairs_cons_cons, ih]
    rfl

theorem checkShape_map_trim (ls : List (List Char)) : checkShape (ls.map trim) = checkShape ls := by
  simp only [checkShape, List.length_map]

theorem runLines_map_trim (ls : List (List Char)) :
    runLines config machine (ls.map trim) = runLines config machine ls := by
  cases ls with
  | nil => rfl
  | cons first rest =>
    have hshape := checkShape_map_trim (first :: rest)
    rw [List.map_cons] at hshape ⊢
    rw [runLines, readLines, hshape, Surface.ofLine_trim, pairs_map_trim, runLines, readLines]
    cases checkShape (first :: rest) with
    | error e => rfl
    | ok u =>
      cases Surface.ofLine first with
      | error e => rfl
      | ok s => exact guideAll_congr (tasks_map_trimmed 0 (pairs rest))

/-- Of lines that are joined to a text a run sees the trimmed forms, without the empty ones at
both ends. -/
theorem run_joined {ls : List (List Char)} (hls : Feedless ls) :
    run config (joined ls) machine = runLines config machine (framed (ls.map trim)) := by
  rw [run_eq_runLines, ← runLines_map_trim, split, map_trim_lines_trim hls]

def Pads (line padded : List Char) : Prop :=
  ∃ before after, Blank before ∧ Blank after ∧ '\n' ∉ before ∧ '\n' ∉ after ∧
    padded = before ++ (line ++ after)

theorem feedless_of_pads {ls padded : List (List Char)} (hls : Feedless ls)
    (h : List.Forall₂ Pads ls padded) : Feedless padded := by
  induction h with
  | nil => exact hls
  | @cons l p ls ps hpad _ ih =>
    obtain ⟨hl, hls⟩ := feedless_cons.1 hls
    obtain ⟨before, after, -, -, hbefore, hafter, rfl⟩ := hpad
    refine feedless_cons.2 ⟨?_, ih hls⟩
    simp [hbefore, hl, hafter]

theorem map_trim_of_pads {ls padded : List (List Char)} (h : List.Forall₂ Pads ls padded) :
    padded.map trim = ls.map trim := by
  induction h with
  | nil => rfl
  | cons hpad _ ih =>
    obtain ⟨before, after, hbefore, hafter, -, -, rfl⟩ := hpad
    rw [List.map_cons, List.map_cons, trim_pad hbefore hafter, ih]

/-- White space around the lines of a text and around the text changes nothing. -/
theorem run_padded {ls padded : List (List Char)} (hls : Feedless ls)
    (hpads : List.Forall₂ Pads ls padded) {front back : List Char} (hfront : Blank front)
    (hback : Blank back) (config : RunnerConfig) (machine : Machine) :
    run config (front ++ (joined padded ++ back)) machine = run config (joined ls) machine := by
  have houter : run config (front ++ (joined padded ++ back)) machine =
      run config (joined padded) machine := by
    rw [run_eq_runLines, run_eq_runLines, split, trim_pad hfront hback, split]
  rw [houter, run_joined (feedless_of_pads hls hpads), run_joined hls, map_trim_of_pads hpads]

/-- Lines that end with CRLF, the second of them with a token too many. -/
theorem run_padded_of_crlf :
    run {} "\n5 5\r\n\t1 2 N x \r\nM\r\n".toList = run {} "5 5\n1 2 N x\nM".toList ∧
      run {} "5 5\n1 2 N x\nM".toList =
        .ok (.failed (.robotInstructionLength 0 "1 2 N x" 4)) := by
  let ls := ["5 5", "1 2 N x", "M"].map String.toList
  let padded := ["5 5\r", "\t1 2 N x \r", "M\r"].map String.toList
  have hfeed : Feedless ls := by
    unfold Feedless
    decide
  have hpads : List.Forall₂ Pads ls padded := by
    have hcr : Blank ['\r'] := blank_cons rfl blank_nil
    refine .cons ⟨[], ['\r'], blank_nil, hcr, ?_⟩ (.cons ⟨['\t'], [' ', '\r'], ?_, ?_, ?_⟩
      (.cons ⟨[], ['\r'], blank_nil, hcr, ?_⟩ .nil))
    · decide
    · exact blank_cons rfl blank_nil
    · exact blank_cons rfl hcr
    · decide
    · decide
  have hfront : Blank ['\n'] := blank_cons rfl blank_nil
  have hrun := run_padded hfeed hpads hfront hfront {} {}
  have hlines : joined ls = "5 5\n1 2 N x\nM".toList := by decide
  have hpadded : ['\n'] ++ (joined padded ++ ['\n']) =
      "\n5 5\r\n\t1 2 N x \r\nM\r\n".toList := by decide
  rw [hpadded, hlines] at hrun
  exact ⟨hrun, by decide +kernel⟩

end Instructions

end Plateau

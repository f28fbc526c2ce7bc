import Plateau.Proofs.Partial
import Plateau.Proofs.Telemetry.Steady

namespace Plateau

open Telemetry (Outline Tracer Tree)
open Telemetry.Traced (call_of_enabled)
open Instructions (checkShape firstFailure pairs split)

namespace Service

variable {surface : Surface} {is : List Instruction} {i : Instruction} {machine : Machine}

theorem roverFacts_of_error {id : Nat} {e : RunError}
    (h : Rover.place id i.placement surface = .error e) : roverFacts surface id i = [] := by
  rw [roverFacts, h]

theorem roverFacts_of_ok {id : Nat} {r : Rover}
    (h : Rover.place id i.placement surface = .ok r) :
    roverFacts surface id i =
      [("commands", .int (Text.trim i.commands).length), ("ok", .bool (!i.fails surface))] := by
  rw [roverFacts, h]

theorem exists_place_of_not_fails (h : i.fails surface = false) (id : Nat) :
    ∃ r, Rover.place id i.placement surface = .ok r := by
  obtain ⟨t, ht⟩ := (Instruction.fails_eq_false_iff id).1 h
  cases hplace : Rover.place id i.placement surface with
  | ok r => exact ⟨r, rfl⟩
  | error e =>
    rw [Instruction.alone, hplace] at ht
    contradiction

theorem length_roverBlocks (surface : Surface) (id : Nat) (is : List Instruction) :
    (roverBlocks surface id is).length = min (firstFailure surface is + 1) is.length := by
  induction is generalizing id with
  | nil => simp [roverBlocks]
  | cons i is ih =>
    rw [roverBlocks, List.length_cons, List.length_cons, firstFailure, List.findIdx_cons]
    cases i.fails surface with
    | true => simp
    | false =>
      have hrest := ih (id + 1)
      rw [firstFailure] at hrest
      simp [hrest]

theorem getElem?_roverBlocks (id : Nat) {j : Nat} (hj : j ≤ firstFailure surface is) :
    (roverBlocks surface id is)[j]? = (is[j]?).map (roverBlock surface (id + j)) := by
  induction is generalizing id j with
  | nil => simp [roverBlocks]
  | cons i is ih =>
    rw [roverBlocks]
    cases j with
    | zero => rfl
    | succ j =>
      rw [firstFailure, List.findIdx_cons] at hj
      cases hfails : i.fails surface with
      | true =>
        rw [hfails] at hj
        contradiction
      | false =>
        rw [hfails] at hj
        have hrest : j ≤ firstFailure surface is := Nat.le_of_succ_le_succ hj
        have hnumber : id + (j + 1) = id + 1 + j := by omega
        rw [hnumber]
        exact ih (id + 1) hrest

/-- What the blocks of rovers that are numbered from `id` on tell if rover `k` is the first that
fails. -/
structure TellsRovers (surface : Surface) (id : Nat) (is : List Instruction) (k : Nat)
    (blocks : List Outline) : Prop where
  length : blocks.length = min (k + 1) is.length
  finished : ∀ j < k, ∀ i, is[j]? = some i →
    blocks[j]? = some (.node ("rover." ++ toString (id + j))
      [("commands", .int (Text.trim i.commands).length), ("ok", .bool true)] [])
  failed : ∀ i r, is[k]? = some i → Rover.place ↑(id + k) i.placement surface = .ok r →
    blocks[k]? = some (.node ("rover." ++ toString (id + k))
      [("commands", .int (Text.trim i.commands).length), ("ok", .bool false)] [])
  misplaced : ∀ i e, is[k]? = some i → Rover.place ↑(id + k) i.placement surface = .error e →
    blocks[k]? = some (.node ("rover." ++ toString (id + k)) [] [])

theorem tellsRovers (surface : Surface) (id : Nat) (is : List Instruction) :
    TellsRovers surface id is (firstFailure surface is) (roverBlocks surface id is) where
  length := length_roverBlocks surface id is
  finished j hj i hi := by
    have hfails : i.fails surface = false := by
      obtain ⟨hlt, rfl⟩ := List.getElem?_eq_some_iff.1 hi
      exact List.not_of_lt_findIdx hj
    obtain ⟨r, hplace⟩ := exists_place_of_not_fails hfails (id + j)
    rw [getElem?_roverBlocks id (Nat.le_of_lt hj), hi, Option.map_some, roverBlock,
      roverFacts_of_ok hplace, hfails]
    rfl
  failed i r hi hplace := by
    have hfails : i.fails surface = true := by
      obtain ⟨hlt, rfl⟩ := List.getElem?_eq_some_iff.1 hi
      exact List.findIdx_getElem
    rw [getElem?_roverBlocks id (Nat.le_refl _), hi, Option.map_some, roverBlock,
      roverFacts_of_ok hplace, hfails]
    rfl
  misplaced i e hi hplace := by
    rw [getElem?_roverBlocks id (Nat.le_refl _), hi, Option.map_some, roverBlock,
      roverFacts_of_error hplace]
    rfl

def countRovers (names : List String) : Nat :=
  (names.filter fun name => name.startsWith Tracer.roverStem).length

theorem countRovers_cons (number : String) (names : List String) :
    countRovers ((Tracer.roverStem ++ number) :: names) = countRovers names + 1 := by
  have hstem : (Tracer.roverStem ++ number).startsWith Tracer.roverStem = true := by
    rw [String.startsWith_string_iff, String.toList_append]
    exact List.prefix_append _ _
  rw [countRovers, List.filter_cons, if_pos hstem, List.length_cons, countRovers]

theorem countRovers_roverBlocks (surface : Surface) (id : Nat) (is : List Instruction) :
    countRovers (Outline.namesBelow (roverBlocks surface id is)) =
      (roverBlocks surface id is).length := by
  induction is generalizing id with
  | nil => rfl
  | cons i is ih =>
    have hname : (roverBlock surface id i).names = [Tracer.roverStem ++ toString id] := rfl
    rw [roverBlocks, Outline.namesBelow, hname, List.singleton_append, countRovers_cons,
      List.length_cons]
    cases i.fails surface with
    | true => rfl
    | false => exact congrArg (· + 1) (ih (id + 1))

theorem countRovers_textBlocks (config : RunnerConfig) (text : List Char) :
    countRovers (Outline.namesBelow (textBlocks config text)) =
      (textBlocks config text).length := by
  rw [textBlocks]
  cases Instructions.read text with
  | error e => rfl
  | ok p =>
    dsimp only
    cases config.parallel with
    | true => rfl
    | false => exact countRovers_roverBlocks p.1 0 p.2

theorem rovers_completion {tree : Tree} {name : String} {facts : Fields} {blocks : List Outline}
    (h : tree.outline = .node name facts blocks) (good : Bool) :
    Fields.get? "rovers" (Tracer.completion tree good).fields =
      some (.int (countRovers (Outline.namesBelow blocks))) := by
  obtain ⟨span, children⟩ := tree
  rw [Tree.outline] at h
  obtain ⟨-, -, hblocks⟩ := Outline.node.inj h
  rw [← hblocks, ← Tree.names_spansBelow, countRovers, List.filter_map, List.length_map]
  rfl

/-- What the blocks below the root of a run tell: nothing if rovers are guided on a pool or if the
lines have no surface, else how far the rovers came. -/
structure TellsRun (config : RunnerConfig) (text : List Char) (blocks : List Outline) : Prop where
  pooled : config.parallel = true → blocks = []
  rejected : ∀ first rest, split text = first :: rest →
    (∀ surface, checkShape (first :: rest) = .ok () → Surface.ofLine first ≠ .ok surface) →
      blocks = []
  rovers : config.parallel = false → ∀ first rest surface, split text = first :: rest →
    checkShape (first :: rest) = .ok () → Surface.ofLine first = .ok surface →
      TellsRovers surface 0 (pairs rest) (firstFailure surface (pairs rest)) blocks

theorem tellsRun (config : RunnerConfig) (text : List Char) :
    TellsRun config text (textBlocks config text) where
  pooled hparallel := by
    rw [textBlocks, hparallel]
    cases Instructions.read text with
    | error e => rfl
    | ok p => rfl
  rejected first rest hsplit hnone := by
    rw [textBlocks]
    cases hread : Instructions.read text with
    | error e => rfl
    | ok p =>
      obtain ⟨first', rest', hsplit', hshape, hline, -⟩ := Instructions.read_eq_ok_iff.1 hread
      obtain ⟨rfl, rfl⟩ := List.cons.inj (hsplit.symm.trans hsplit')
      exact absurd hline (hnone p.1 hshape)
  rovers hseq first rest surface hsplit hshape hline := by
    have hread : Instructions.read text = .ok (surface, pairs rest) :=
      Instructions.read_eq_ok_iff.2 ⟨first, rest, hsplit, hshape, hline, rfl⟩
    rw [textBlocks, hread, hseq]
    exact tellsRovers surface 0 (pairs rest)

/-- A report of a run that is made while tracing is on carries the tree of the run.  Its children
are the rovers in order, up to the first that fails, and the completion that is logged after all
messages of the run counts them. -/
theorem run_tells_course {config : RunnerConfig} {source : String} {text : List Char} {t : Tracer}
    {r : Report} (hon : t.enabled = true) (hrun : (run config source text machine t).1 = .ok r) :
    ∃ tree blocks messages completion,
      r.remarks = some [("telemetry", Tree.toValue tree)] ∧
        tree.outline = .node "RunnerService.run" [] blocks ∧ TellsRun config text blocks ∧
        (run config source text machine t).2.log = t.log ++ messages ++ [completion] ∧
        (∀ m ∈ messages, m.logger = logger) ∧ completion.logger = Tracer.logger ∧
        completion.event = "span.complete" ∧
        Fields.get? "rovers" completion.fields = some (.int blocks.length) := by
  obtain ⟨s, messages, hyields, hown, hleaves⟩ := steady_runBody config source text
  obtain ⟨tree, good, houtline, -, hresult, hlog⟩ :=
    call_of_enabled "RunnerService.run" Report.ok Report.withTelemetry hon hyields hleaves
  have hreport : s.map (Report.withTelemetry tree.toValue) = .ok r := hresult.symm.trans hrun
  obtain ⟨r', rfl, rfl⟩ := map_eq_ok_iff.1 hreport
  have hbare : r'.remarks = none := returns_runBody config source text t r' (hyields t)
  have hcount := rovers_completion houtline good
  rw [countRovers_textBlocks] at hcount
  exact ⟨tree, textBlocks config text, messages, _, remarks_withTelemetry hbare _, houtline,
    tellsRun config text, hlog, hown, rfl, rfl, hcount⟩

/-- One rover finishes, the second leaves the surface, and the third is not run. -/
theorem run_tells_course_of_three :
    ∃ r tree, (run {} "here" "1 1\n0 0 N\nM\n0 0 E\nMM\n9 9 N\nX".toList {}
        { enabled := true, clock := .every 7 }).1 = .ok r ∧
      r.remarks = some [("telemetry", Tree.toValue tree)] ∧
      tree.outline = .node "RunnerService.run" []
        [.node "rover.0" [("commands", .int 1), ("ok", .bool true)] [],
          .node "rover.1" [("commands", .int 2), ("ok", .bool false)] []] := by
  let text := "1 1\n0 0 N\nM\n0 0 E\nMM\n9 9 N\nX".toList
  let lines := ["0 0 N", "M", "0 0 E", "MM", "9 9 N", "X"].map String.toList
  have ho : Instructions.run {} text = .ok ⟨["0 1 N"], some (.robotOutOfBounds 1 2 0)⟩ := by
    decide +kernel
  have hprintable : (RunError.robotOutOfBounds 1 2 0).Printable :=
    RunError.printable_of_lt (by decide)
  obtain ⟨r, hrun, -⟩ := exists_report ho (by simpa using hprintable) "here"
    { enabled := true, clock := .every 7 }
  obtain ⟨tree, blocks, messages, completion, hremarks, houtline, htells, -⟩ :=
    run_tells_course rfl hrun
  have hsplit : split text = "1 1".toList :: lines := by decide
  have hrovers := htells.rovers rfl _ _ ⟨1, 1⟩ hsplit (by decide) (by decide)
  have hk : firstFailure ⟨1, 1⟩ (pairs lines) = 1 := by decide
  have htwo : min (1 + 1) (pairs lines).length = 2 := by decide
  rw [hk] at hrovers
  obtain ⟨first, second, rfl⟩ := List.length_eq_two.1 (hrovers.length.trans htwo)
  have hfirst := hrovers.finished 0 (by omega) ⟨"0 0 N".toList, "M".toList⟩ (by decide)
  have hsecond := hrovers.failed ⟨"0 0 E".toList, "MM".toList⟩ ⟨1, ⟨0, 0⟩, .east⟩ (by decide)
    (by decide)
  obtain rfl := Option.some.inj hfirst
  obtain rfl := Option.some.inj hsecond
  exact ⟨r, tree, hrun, hremarks, houtline⟩

end Service

end Plateau

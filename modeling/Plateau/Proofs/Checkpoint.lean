import Mathlib.Data.List.OfFn
import Plateau.Proofs.Composition
import Plateau.Proofs.Trail

namespace Plateau

open Text

namespace Rover

variable {surface : Surface} {r : Rover}

theorem place_of_tells {text : String} (h : Tells surface r text) :
    place r.id text.toList surface = .ok r :=
  place_eq_ok_iff.2 ⟨rfl, h.placed, h.inside⟩

theorem trim_append_of_word {w more : List Char} (hne : w ≠ []) (hw : Word w)
    (hmore : ∀ c ∈ more.head?, isBlank c = false) : trim (w ++ more) = w ++ trim more := by
  have hclear := not_blank_of_word hw
  have hend : trimEnd w = w := trimEnd_eq_self fun c hc => hclear c (List.mem_of_getLast? hc)
  have hfront : ∀ c ∈ (w ++ more).head?, isBlank c = false := by
    intro c hc
    rw [List.head?_append_of_ne_nil _ hne] at hc
    exact hclear c (List.mem_of_head? hc)
  rw [trim, dropWhile_eq_self hfront, trimEnd_append, hend, trim, dropWhile_eq_self hmore]
  split
  · rename_i hnil
    rw [hnil, List.append_nil]
  · rfl

theorem guide_append {w more : List Char} (hne : w ≠ []) (hw : Word w) (hs : r.Stays surface w)
    (hmore : ∀ c ∈ more.head?, isBlank c = false) :
    r.guide surface (w ++ more) = (r.after w).guide surface more := by
  rw [guide, trim_append_of_word hne hw hmore, walk_append hw hs, guide]

end Rover

/-- A rover that has come to rest goes on from its printed position as if it had not stopped. -/
theorem Instruction.run_from_text {surface : Surface} (hs : surface.Writable) {id : Nat}
    {placement w more : List Char} {t : Rover} (hne : w ≠ []) (hw : Word w)
    (hmore : ∀ c ∈ more.head?, isBlank c = false)
    (halone : Instruction.alone surface id ⟨placement, w⟩ = .ok t) :
    Instruction.run surface id ⟨placement, w ++ more⟩ =
      Instruction.run surface id ⟨t.text.toList, more⟩ := by
  obtain ⟨r, hplace, hguide⟩ := Instruction.exists_guide_of_alone halone
  have htrim : trim w = w := trim_word hw
  have hstays : r.Stays surface w ∧ t = r.after w := by
    rw [Rover.guide, htrim] at hguide
    exact (Rover.walk_eq_none_iff.1 hguide).2
  have hid : t.id = id := by
    rw [hstays.2, Rover.id_after]
    exact (Rover.place_eq_ok_iff.1 hplace).1
  have hagain : Rover.place id t.text.toList surface = .ok t := by
    rw [← hid]
    exact Rover.place_of_tells (Rover.tells_of_guide hs hplace hguide)
  rw [Instruction.run, hplace, Instruction.run, hagain]
  dsimp only
  rw [Rover.guide_append hne hw hstays.1 hmore, hstays.2]

namespace Instructions

variable {surface : Surface} {first : List Char} {is : List Instruction}

theorem getElem?_tasks (id : Nat) (is : List Instruction) (k : Nat) :
    (tasks surface id is)[k]? = is[k]?.map fun i => i.run surface (id + k) := by
  rw [tasks_eq_map_zipIdx, List.getElem?_map, List.getElem?_zipIdx, Option.map_map]
  rfl

theorem tasks_ofFn_congr {n : Nat} {f g : Fin n → Instruction}
    (h : ∀ k, (f k).run surface k = (g k).run surface k) :
    tasks surface 0 (List.ofFn f) = tasks surface 0 (List.ofFn g) := by
  apply List.ext_getElem?
  intro k
  rw [getElem?_tasks, getElem?_tasks, Nat.zero_add]
  by_cases hk : k < n
  · simp [hk, h ⟨k, hk⟩]
  · simp [hk]

/-- The lines of a pair can stand in a text, and also at its end. -/
structure Tidy (i : Instruction) : Prop where
  placement : '\n' ∉ i.placement
  commands : '\n' ∉ i.commands
  not_blank : ¬Blank i.commands

theorem tidy_of_head {placement commands : List Char} (hplacement : '\n' ∉ placement)
    (hcommands : '\n' ∉ commands) (hhead : ∃ c ∈ commands.head?, isBlank c = false) :
    Tidy ⟨placement, commands⟩ where
  placement := hplacement
  commands := hcommands
  not_blank hblank := by
    obtain ⟨c, hc, hclear⟩ := hhead
    rw [hblank c (List.mem_of_head? hc)] at hclear
    contradiction

theorem tidy_of_word {placement w more : List Char} (hplacement : '\n' ∉ placement) (hne : w ≠ [])
    (hw : Word w) (hmore : '\n' ∉ more) : Tidy ⟨placement, w ++ more⟩ := by
  have hclear := not_blank_of_word hw
  refine tidy_of_head hplacement ?_ ?_
  · rw [List.mem_append, not_or]
    exact ⟨feed_not_mem hclear, hmore⟩
  · rw [List.head?_append_of_ne_nil _ hne]
    obtain ⟨c, hc⟩ := Option.isSome_iff_exists.1 (List.isSome_head?.2 hne)
    exact ⟨c, hc, hclear c (List.mem_of_head? hc)⟩

theorem feedless_lines (hfirst : '\n' ∉ first) (his : ∀ i ∈ is, Tidy i) :
    Feedless (first :: is.flatMap Instruction.lines) :=
  feedless_compose hfirst fun i hi => ⟨(his i hi).placement, (his i hi).commands⟩

theorem exists_named_of_runLines {config : RunnerConfig} {machine : Machine}
    {ls : List (List Char)} {positions : List String}
    (h : runLines config machine ls = .ok ⟨positions, none⟩) :
    ∃ l rest surface, ls = l :: rest ∧ 3 ≤ ls.length ∧ ls.length % 2 = 1 ∧
      Surface.Named l surface := by
  unfold runLines at h
  split at h
  · exact absurd h Outcome.failed_ne_done
  · rename_i surface is hread
    cases ls with
    | nil => contradiction
    | cons l rest =>
      obtain ⟨_, hshape, hread⟩ := bind_eq_ok_iff.1 hread
      obtain ⟨s, hline, -⟩ := bind_eq_ok_iff.1 hread
      obtain ⟨hthree, hodd⟩ := checkShape_eq_ok_iff.1 hshape
      exact ⟨l, rest, s, rfl, hthree, hodd, Surface.ofLine_eq_ok_iff.1 hline⟩

theorem not_named_of_word {w : List Char} (hne : w ≠ []) (hw : Word w) :
    ¬Surface.Named (trim w) surface := by
  rintro ⟨x, y, hspaced, -⟩
  have htoken : words w = [w] := words_token ⟨hne, not_blank_of_word hw⟩
  rw [← words_trim, words_of_spaced hspaced] at htoken
  simp at htoken

theorem framed_of_blank_first {i : Instruction} (hfirst : Blank first)
    (his : ∀ j ∈ i :: is, Tidy j) :
    (framed ((first :: (i :: is).flatMap Instruction.lines).map trim)).length % 2 = 0 ∨
      ∃ rest, framed ((first :: (i :: is).flatMap Instruction.lines).map trim) =
        trim i.commands :: rest := by
  have hlast := last_line_ne_nil fun j hj => (his j (List.mem_of_getLast? hj)).not_blank
  have hlength := length_flatMap_lines (i :: is)
  have hlines : ((i :: is).flatMap Instruction.lines).map trim =
      trim i.placement :: trim i.commands :: (is.flatMap Instruction.lines).map trim := rfl
  rw [← List.length_map trim] at hlength
  rw [List.map_cons, trim_eq_nil_iff.2 hfirst, framed_nil_cons]
  rw [hlines] at hlast hlength ⊢
  by_cases hplacement : trim i.placement = []
  · have hcommands : trim i.commands ≠ [] := fun h =>
      (his i List.mem_cons_self).not_blank (trim_eq_nil_iff.1 h)
    rw [List.getLast?_cons_cons] at hlast
    rw [hplacement, framed_nil_cons, framed_cons hcommands hlast]
    exact .inr ⟨_, rfl⟩
  · rw [framed_cons hplacement hlast, hlength]
    exact .inl (Nat.mul_mod_right 2 _)

theorem exists_named_of_run {config : RunnerConfig} {machine : Machine} {positions : List String}
    (hfirst : '\n' ∉ first) (his : ∀ i ∈ is, Tidy i)
    (hword : ∀ i ∈ is, i.commands ≠ [] ∧ Word i.commands)
    (hrun : run config (compose first is) machine = .ok ⟨positions, none⟩) :
    ∃ surface, Surface.Named first surface ∧ is ≠ [] := by
  rw [compose, run_joined (feedless_lines hfirst his)] at hrun
  obtain ⟨l, rest, surface, hframe, hthree, hodd, hnamed⟩ := exists_named_of_runLines hrun
  cases is with
  | nil =>
    have hone : framed [trim first] = [trim first] := by
      by_cases h : trim first = [] <;> simp [framed, dropLeading, dropTrailing, h]
    rw [List.flatMap_nil, List.map_singleton, hone] at hthree
    simp at hthree
  | cons i is =>
    by_cases hblank : Blank first
    · exfalso
      rcases framed_of_blank_first hblank his with heven | ⟨commands, hcommands⟩
      · omega
      · rw [hcommands] at hframe
        obtain ⟨hne, hw⟩ := hword i List.mem_cons_self
        rw [← (List.cons.inj hframe).1] at hnamed
        exact not_named_of_word hne hw hnamed
    · rw [framed_lines hblank (List.cons_ne_nil i is)
        fun j hj => (his j (List.mem_of_getLast? hj)).not_blank, List.map_cons] at hframe
      refine ⟨surface, ?_, List.cons_ne_nil i is⟩
      rw [← Surface.ofLine_eq_ok_iff, ← Surface.ofLine_trim, (List.cons.inj hframe).1]
      exact Surface.ofLine_eq_ok_iff.2 hnamed

theorem run_compose_ofFn {config : RunnerConfig} {machine : Machine} {n : Nat}
    {f : Fin n → Instruction} (hfirst : '\n' ∉ first) (hf : ∀ k, Tidy (f k))
    (hnamed : Surface.Named first surface) (hn : n ≠ 0) :
    run config (compose first (List.ofFn f)) machine =
      guideAll config machine surface (List.ofFn f) := by
  have hall : ∀ i ∈ List.ofFn f, Tidy i := List.forall_mem_ofFn_iff.2 hf
  have hne : List.ofFn f ≠ [] := by rwa [Ne, List.ofFn_eq_nil_iff]
  exact run_compose (feedless_lines hfirst hall) hnamed hne fun i hi =>
    (hall i (List.mem_of_getLast? hi)).not_blank

theorem exists_rested {n : Nat} {f : Fin n → Instruction} (hs : surface.Writable)
    {positions : List String} (h : runFrom surface 0 (List.ofFn f) = .ok ⟨positions, none⟩) :
    ∃ t : Fin n → Rover, positions = List.ofFn (fun k => (t k).text) ∧
      ∀ k, (f k).alone surface k = .ok (t k) ∧ Rover.Tells surface (t k) (t k).text := by
  obtain ⟨p, hp, hrests⟩ := forall₂_ofFn_iff.1 ((runFrom_eq_ok_none_iff_rests hs).1 h)
  have hrested (k : Fin n) : ∃ t : Rover, t.text = p k ∧ (f k).alone surface k = .ok t := by
    obtain ⟨route, hsays, hon, hpos⟩ := hrests k
    let rested : Rover := ⟨k, route.pointAt route.word.length, route.headingAt route.word.length⟩
    have htext : rested.text = route.rest := rfl
    exact ⟨rested, htext.trans hpos.symm, Instruction.alone_eq_ok_iff.2 ⟨route, hsays, hon, rfl⟩⟩
  choose t htext halone using hrested
  refine ⟨t, ?_, fun k => ⟨halone k, ?_⟩⟩
  · rw [hp]
    exact congrArg List.ofFn (funext fun k => (htext k).symm)
  · obtain ⟨r, hplace, hguide⟩ := Instruction.exists_guide_of_alone (halone k)
    exact Rover.tells_of_guide hs hplace hguide

/-- Commands may be given in two runs, the second of which starts from the positions that the first
one printed: the outcome is that of one run. -/
theorem run_resumed {n : Nat} {first : List Char} {placement word more : Fin n → List Char}
    (hfirst : '\n' ∉ first) (hplacement : ∀ k, '\n' ∉ placement k)
    (hword : ∀ k, word k ≠ [] ∧ Word (word k))
    (hmore : ∀ k, '\n' ∉ more k ∧ ∃ c ∈ (more k).head?, isBlank c = false)
    {config : RunnerConfig} {machine : Machine} {positions : List String}
    (hrun : run config (compose first (List.ofFn fun k => ⟨placement k, word k⟩)) machine =
      .ok ⟨positions, none⟩) :
    ∃ p : Fin n → String, positions = List.ofFn p ∧
      ∃ o, run config (compose first (List.ofFn fun k => ⟨placement k, word k ++ more k⟩)) machine =
          .ok o ∧
        run config (compose first (List.ofFn fun k => ⟨(p k).toList, more k⟩)) machine = .ok o := by
  have hwords (k : Fin n) : Tidy ⟨placement k, word k⟩ := by
    simpa using tidy_of_word (hplacement k) (hword k).1 (hword k).2 List.not_mem_nil
  have hwhole (k : Fin n) : Tidy ⟨placement k, word k ++ more k⟩ :=
    tidy_of_word (hplacement k) (hword k).1 (hword k).2 (hmore k).1
  obtain ⟨surface, hnamed, hne⟩ := exists_named_of_run hfirst (List.forall_mem_ofFn_iff.2 hwords)
    (List.forall_mem_ofFn_iff.2 hword) hrun
  have hn : n ≠ 0 := by rwa [Ne, List.ofFn_eq_nil_iff] at hne
  have hs : surface.Writable := Surface.writable_of_ofLine (Surface.ofLine_eq_ok_iff.2 hnamed)
  rw [run_compose_ofFn hfirst hwords hnamed hn] at hrun
  have hfrom := mapError_eq_ok_iff.1 ((guideAll_eq hrun _).symm.trans hrun)
  obtain ⟨t, rfl, hrested⟩ := exists_rested hs hfrom
  have hlater (k : Fin n) : Tidy ⟨(t k).text.toList, more k⟩ :=
    tidy_of_head (hrested k).2.one_line (hmore k).1 (hmore k).2
  have htasks : tasks surface 0 (List.ofFn fun k => ⟨placement k, word k ++ more k⟩) =
      tasks surface 0 (List.ofFn fun k => ⟨(t k).text.toList, more k⟩) := by
    refine tasks_ofFn_congr fun k => ?_
    refine Instruction.run_from_text hs (hword k).1 (hword k).2 ?_ (hrested k).1
    obtain ⟨c, hc, hclear⟩ := (hmore k).2
    intro d hd
    rwa [Option.mem_unique hd hc]
  obtain ⟨o, ho, -⟩ := exists_runFrom hs 0 (List.ofFn fun k => ⟨(t k).text.toList, more k⟩)
  refine ⟨fun k => (t k).text, rfl, o, ?_⟩
  rw [run_compose_ofFn hfirst hwhole hnamed hn, run_compose_ofFn hfirst hlater hnamed hn,
    guideAll_congr htasks, guideAll_eq hrun, ho]
  exact ⟨rfl, rfl⟩

/-- Two rovers, the second of which is told in the second run to do what is no command. -/
theorem run_resumed_of_two :
    run {} "5 5\n1 2 N\nLM\n3 3 E\nMM".toList = .ok ⟨["0 2 W", "5 3 E"], none⟩ ∧
      run {} "5 5\n1 2 N\nLMLMM\n3 3 E\nMMX".toList =
        run {} "5 5\n0 2 W\nLMM\n5 3 E\nX".toList := by
  let placement : Fin 2 → List Char := fun k => if k = 0 then "1 2 N".toList else "3 3 E".toList
  let word : Fin 2 → List Char := fun k => if k = 0 then "LM".toList else "MM".toList
  let more : Fin 2 → List Char := fun k => if k = 0 then "LMM".toList else "X".toList
  have hword : ∀ k, word k ≠ [] ∧ Word (word k) := by
    simp [Fin.forall_fin_two, word, Word]
  have hmore : ∀ k, '\n' ∉ more k ∧ ∃ c ∈ (more k).head?, isBlank c = false :=
    Fin.forall_fin_two.2 ⟨⟨by decide, 'L', rfl, rfl⟩, ⟨by decide, 'X', rfl, rfl⟩⟩
  have hrun : run {} (compose "5 5".toList (List.ofFn fun k => ⟨placement k, word k⟩)) =
      .ok ⟨["0 2 W", "5 3 E"], none⟩ := by decide +kernel
  obtain ⟨p, hp, o, hwhole, hrest⟩ := run_resumed (by decide) (by decide) hword hmore hrun
  have hpositions : p 0 = "0 2 W" ∧ p 1 = "5 3 E" := by
    have hlist : [p 0, p 1] = ["0 2 W", "5 3 E"] := hp.symm
    simpa using hlist
  have htext : compose "5 5".toList (List.ofFn fun k => ⟨(p k).toList, more k⟩) =
      "5 5\n0 2 W\nLMM\n5 3 E\nX".toList := by
    simp only [List.ofFn_succ, List.ofFn_zero, Fin.succ_zero_eq_one, hpositions.1, hpositions.2]
    decide
  refine ⟨hrun, ?_⟩
  rw [← htext, hrest]
  exact hwhole

end Instructions

end Plateau

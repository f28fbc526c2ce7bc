import Plateau.Proofs.Diagnosis

namespace Plateau

open Numeral (Digits value)

/-- One coordinate is one unit past an edge, and the other is within its bounds. -/
def Surface.JustOutside (s : Surface) (p : Point) : Prop :=
  (p.x = -1 ∨ p.x = s.upperX + 1) ∧ 0 ≤ p.y ∧ p.y ≤ s.upperY ∨
    (p.y = -1 ∨ p.y = s.upperY + 1) ∧ 0 ≤ p.x ∧ p.x ≤ s.upperX

namespace Rover

def trail (surface : Surface) : List Char → Rover → List Rover
  | [], r => [r]
  | c :: rest, r =>
    match Command.ofChar? c with
    | none => [r]
    | some command =>
      let next := r.follow command
      if surface.Contains next.point then r :: trail surface rest next else [r, next]

variable {surface : Surface} {r : Rover}

theorem heading_follow_ne_unknown (h : r.heading ≠ .unknown) (c : Command) :
    (r.follow c).heading ≠ .unknown := by
  have hturn (k : Heading) (hk : k ≠ .unknown) : (travel k c).heading ≠ .unknown := by
    cases c <;> cases k <;> simp_all [travel, Heading.turnLeft, Heading.turnRight, Heading.ahead]
  exact hturn r.heading h

/-- Only a move leads off the surface, and it leads one unit past an edge. -/
theorem follow_off_surface (hin : surface.Contains r.point) {command : Command}
    (hout : ¬surface.Contains (r.follow command).point) :
    command = .move ∧ surface.JustOutside (r.follow command).point := by
  have hturn (d : Transition) (hx : d.dx = 0) (hy : d.dy = 0) :
      surface.Contains (r.apply d).point := by
    have hpoint : (r.apply d).point = r.point := by
      rw [apply, hx, hy, Int.add_zero, Int.add_zero]
    rwa [hpoint]
  cases command with
  | left => exact absurd (hturn _ rfl rfl) hout
  | right => exact absurd (hturn _ rfl rfl) hout
  | unknown => exact absurd (hturn _ rfl rfl) hout
  | move =>
    refine ⟨rfl, ?_⟩
    rw [follow_move] at hout ⊢
    obtain ⟨hx0, hx, hy0, hy⟩ := hin
    have h0 : Surface.lower = 0 := rfl
    simp only [Surface.Contains, Surface.JustOutside, Point.shift, h0] at hx0 hy0 hout ⊢
    cases hh : r.heading <;> rw [hh] at hout <;> simp only [Heading.unit] at hout ⊢ <;> omega

/-- All states are on the surface, or a last move leads off it. -/
inductive Bounded (surface : Surface) : List Rover → Option RunError → Prop where
  | inside {states : List Rover} {error : Option RunError}
    (hin : ∀ s ∈ states, surface.Contains s.point)
    (hno : ∀ id x y, error ≠ some (.robotOutOfBounds id x y)) : Bounded surface states error
  | off {before : List Rover} {t : Rover} (hin : ∀ s ∈ before ++ [t], surface.Contains s.point)
    (hout : surface.JustOutside (t.follow .move).point) :
    Bounded surface (before ++ [t, t.follow .move])
      (some (.robotOutOfBounds t.id (t.follow .move).point.x (t.follow .move).point.y))

theorem Bounded.cons (hr : surface.Contains r.point) {states : List Rover}
    {error : Option RunError} (h : Bounded surface states error) :
    Bounded surface (r :: states) error := by
  cases h with
  | inside hin hno => exact .inside (List.forall_mem_cons.2 ⟨hr, hin⟩) hno
  | @off before t hin hout =>
    have hin' : ∀ s ∈ r :: before ++ [t], surface.Contains s.point :=
      List.forall_mem_cons.2 ⟨hr, hin⟩
    exact .off hin' hout

structure Guarded (surface : Surface) (commands : List Char) (r : Rover) : Prop where
  state : ∀ k s, (r.trail surface commands)[k]? = some s → s = r.after (commands.take k)
  ends : (r.trail surface commands).getLast? = some (r.walk surface commands).1
  heading : ∀ s ∈ r.trail surface commands, s.heading ≠ .unknown
  bounded : Bounded surface (r.trail surface commands) (r.walk surface commands).2

theorem guarded_of_still {commands : List Char} {error : Option RunError}
    (hin : surface.Contains r.point) (hheading : r.heading ≠ .unknown)
    (htrail : r.trail surface commands = [r]) (hwalk : r.walk surface commands = (r, error))
    (hno : ∀ id x y, error ≠ some (.robotOutOfBounds id x y)) :
    Guarded surface commands r where
  state k s hs := by
    rw [htrail] at hs
    cases k with
    | zero =>
      rw [List.take_zero, after_nil]
      exact (Option.some.inj hs).symm
    | succ k => simp at hs
  ends := by rw [htrail, hwalk, List.getLast?_singleton]
  heading := by
    rw [htrail]
    exact List.forall_mem_singleton.2 hheading
  bounded := by
    rw [htrail, hwalk]
    exact .inside (List.forall_mem_singleton.2 hin) hno

theorem guarded_cons_of_outside {c : Char} {command : Command} (hin : surface.Contains r.point)
    (hheading : r.heading ≠ .unknown) (hc : Command.ofChar? c = some command)
    (hout : ¬surface.Contains (r.follow command).point) (rest : List Char) :
    Guarded surface (c :: rest) r := by
  have htrail : r.trail surface (c :: rest) = [r, r.follow command] := by
    simp only [trail, hc, hout, if_false]
  have hwalk := walk_of_halts (.outside hc hout) rest
  refine ⟨?_, ?_, ?_, ?_⟩
  · intro k s hs
    rw [htrail] at hs
    match k with
    | 0 => exact (Option.some.inj hs).symm
    | 1 =>
      rw [List.take_succ_cons, List.take_zero, after_cons hc, after_nil]
      exact (Option.some.inj hs).symm
    | k + 2 => simp at hs
  · rw [htrail, hwalk]
    rfl
  · rw [htrail]
    intro s hs
    rcases List.mem_pair.1 hs with rfl | rfl
    · exact hheading
    · exact heading_follow_ne_unknown hheading command
  · obtain ⟨rfl, hjust⟩ := follow_off_surface hin hout
    have hbefore : ∀ s ∈ [] ++ [r], surface.Contains s.point := List.forall_mem_singleton.2 hin
    rw [htrail, hwalk]
    exact .off hbefore hjust

theorem Guarded.cons {c : Char} {command : Command} {rest : List Char}
    (hin : surface.Contains r.point) (hheading : r.heading ≠ .unknown)
    (hc : Command.ofChar? c = some command) (hnext : surface.Contains (r.follow command).point)
    (h : Guarded surface rest (r.follow command)) : Guarded surface (c :: rest) r := by
  have htrail : r.trail surface (c :: rest) = r :: (r.follow command).trail surface rest := by
    simp only [trail, hc, hnext, if_true]
  have hwalk : r.walk surface (c :: rest) = (r.follow command).walk surface rest := by
    simp only [walk, hc, hnext, if_true]
  refine ⟨?_, ?_, ?_, ?_⟩
  · intro k s hs
    rw [htrail] at hs
    cases k with
    | zero => exact (Option.some.inj hs).symm
    | succ k =>
      rw [List.take_succ_cons, after_cons hc]
      exact h.state k s hs
  · rw [htrail, hwalk, List.getLast?_cons, h.ends]
    rfl
  · rw [htrail]
    exact List.forall_mem_cons.2 ⟨hheading, h.heading⟩
  · rw [htrail, hwalk]
    exact h.bounded.cons hin

theorem guarded (commands : List Char) (hin : surface.Contains r.point)
    (hheading : r.heading ≠ .unknown) : Guarded surface commands r := by
  induction commands generalizing r with
  | nil => exact guarded_of_still hin hheading rfl rfl (by simp)
  | cons c rest ih =>
    cases hc : Command.ofChar? c with
    | none =>
      have htrail : r.trail surface (c :: rest) = [r] := by simp only [trail, hc]
      have hwalk : r.walk surface (c :: rest) = (r, some (.robotMovementParse r.id _)) :=
        walk_of_halts (.unreadable hc) rest
      exact guarded_of_still hin hheading htrail hwalk (by simp)
    | some command =>
      by_cases hnext : surface.Contains (r.follow command).point
      · have hlater : Guarded surface rest (r.follow command) :=
          ih hnext (heading_follow_ne_unknown hheading command)
        exact hlater.cons hin hheading hc hnext
      · exact guarded_cons_of_outside hin hheading hc hnext rest

theorem guarded_of_place {id : Int} {line : List Char} (h : place id line surface = .ok r)
    (commands : List Char) : Guarded surface commands r := by
  obtain ⟨-, ⟨x, y, -, -, -, hheading⟩, hin⟩ := place_eq_ok_iff.1 h
  exact guarded commands hin hheading

/-- A position that is printed: two numbers and a heading, with one space between each and the
next, which place the rover where it is. -/
structure Tells (surface : Surface) (r : Rover) (text : String) : Prop where
  written : r.render = .ok text
  spelled : ∃ x y, Digits x ∧ Digits y ∧ text.toList = x ++ ' ' :: (y ++ [' ', r.heading.letter])
  one_line : '\n' ∉ text.toList
  placed : Placed text.toList r.point r.heading
  inside : surface.Contains r.point

theorem toList_text (id : Int) (m n : Nat) (heading : Heading) :
    (text ⟨id, ⟨m, n⟩, heading⟩).toList =
      (toString m).toList ++ ' ' :: ((toString n).toList ++ [' ', heading.letter]) := by
  have hinterpolated : text ⟨id, ⟨m, n⟩, heading⟩ =
      toString m ++ " " ++ toString n ++ " " ++ String.singleton heading.letter := rfl
  rw [hinterpolated]
  simp only [String.toList_append, String.toList_singleton, List.append_assoc]
  rfl

theorem tells_of_short (hx : Numeral.Short r.point.x) (hy : Numeral.Short r.point.y)
    (hin : surface.Contains r.point) (hheading : r.heading ≠ .unknown) :
    Tells surface r r.text := by
  obtain ⟨id, ⟨x, y⟩, heading⟩ := r
  rw [Numeral.short_iff] at hx hy
  have hwritten := render_eq_ok hx hy
  have hbounds : Surface.lower ≤ x ∧ x ≤ surface.upperX ∧ Surface.lower ≤ y ∧
      y ≤ surface.upperY := hin
  obtain ⟨hx0, -, hy0, -⟩ := hbounds
  obtain ⟨m, rfl⟩ := Int.eq_ofNat_of_zero_le hx0
  obtain ⟨n, rfl⟩ := Int.eq_ofNat_of_zero_le hy0
  obtain ⟨hm, hmvalue⟩ := Numeral.digits_toString (n := m) hx
  obtain ⟨hn, hnvalue⟩ := Numeral.digits_toString (n := n) hy
  have htext := toList_text id m n heading
  generalize (toString m).toList = xs at hm hmvalue htext
  generalize (toString n).toList = ys at hn hnvalue htext
  refine ⟨hwritten, ⟨xs, ys, hm, hn, htext⟩, ?_, ?_, hin⟩
  · have hfeed {ds : List Char} (hd : Digits ds) : '\n' ∉ ds := by
      intro hmem
      exact absurd (hd.ascii _ hmem).1 (by decide)
    have hletter : '\n' ≠ heading.letter := by cases heading <;> decide
    rw [htext]
    simp [hfeed hm, hfeed hn, hletter]
  · have hspace : Text.Blank [' '] := by
      intro c hc
      rw [List.mem_singleton.1 hc]
      decide
    have hlast : Text.Spaced [' ', heading.letter] [[heading.letter]] := by
      apply Text.words_eq_iff.1
      cases heading <;> decide
    have hpair := (Numeral.spaced_digits hn hlast).blank_append hspace
    refine ⟨xs, ys, ?_, ?_, ?_, hheading⟩
    · rw [htext]
      exact Numeral.spaced_digits hm hpair
    · rw [← hmvalue]
      exact .plain hm
    · rw [← hnvalue]
      exact .plain hn

theorem tells_of_contains (hs : surface.Writable) (hin : surface.Contains r.point)
    (hheading : r.heading ≠ .unknown) : Tells surface r r.text := by
  have h0 : Surface.lower = 0 := rfl
  have hbounds : Surface.lower ≤ r.point.x ∧ r.point.x ≤ surface.upperX ∧
      Surface.lower ≤ r.point.y ∧ r.point.y ≤ surface.upperY := hin
  obtain ⟨hx0, hx, hy0, hy⟩ := hbounds
  obtain ⟨hux, huy⟩ := hs
  exact tells_of_short (Numeral.short_iff.2 (by omega)) (Numeral.short_iff.2 (by omega)) hin
    hheading

theorem tells_of_guide (hs : surface.Writable) {id : Int} {line commands : List Char} {t : Rover}
    (hplace : place id line surface = .ok r) (hguide : r.guide surface commands = (t, none)) :
    Tells surface t t.text := by
  have hguarded := guarded_of_place hplace (Text.trim commands)
  have hlast := hguarded.ends
  have hbounded := hguarded.bounded
  rw [← guide, hguide] at hlast hbounded
  have hmem : t ∈ r.trail surface (Text.trim commands) := List.mem_of_getLast? hlast
  have hheading : t.heading ≠ .unknown := hguarded.heading t hmem
  generalize r.trail surface (Text.trim commands) = states at hbounded hmem
  cases hbounded with
  | inside hin hno => exact tells_of_contains hs (hin t hmem) hheading

end Rover

theorem Instruction.exists_guide_of_alone {surface : Surface} {id : Int} {i : Instruction}
    {t : Rover} (h : i.alone surface id = .ok t) :
    ∃ r, Rover.place id i.placement surface = .ok r ∧ r.guide surface i.commands = (t, none) := by
  unfold alone at h
  split at h
  · contradiction
  · rename_i r hplace
    split at h
    · contradiction
    · rename_i rested hguide
      rw [← Except.ok.inj h]
      exact ⟨r, hplace, hguide⟩

namespace Instructions

theorem StopsAt.exists_tells {surface : Surface} (hs : surface.Writable) {is : List Instruction}
    {k : Nat} {o : Outcome} (h : StopsAt surface 0 is k o) {j : Nat} {position : String}
    (hj : o.positions[j]? = some position) :
    ∃ i r t, is[j]? = some i ∧ Rover.place j i.placement surface = .ok r ∧
      r.guide surface i.commands = (t, none) ∧ Rover.Tells surface t position := by
  have hlt : j < k := by
    rw [← h.length_positions]
    exact (List.getElem?_eq_some_iff.1 hj).1
  obtain ⟨i, t, hi, halone, hposition⟩ := h.position j hlt
  rw [Nat.zero_add] at halone
  obtain ⟨r, hplace, hguide⟩ := Instruction.exists_guide_of_alone halone
  obtain rfl : t.text = position := Option.some.inj (hposition.symm.trans hj)
  exact ⟨i, r, t, hi, hplace, hguide, Rover.tells_of_guide hs hplace hguide⟩

theorem exists_rover_of_run {text : List Char} {o : Outcome} (h : run {} text = .ok o) {j : Nat}
    {position : String} (hj : o.positions[j]? = some position) :
    ∃ surface is i r t, read text = .ok (surface, is) ∧ is[j]? = some i ∧
      Rover.place j i.placement surface = .ok r ∧ r.guide surface i.commands = (t, none) ∧
      Rover.Tells surface t position := by
  cases hread : read text with
  | error e =>
    rw [run_of_read_error hread] at h
    obtain rfl := Except.ok.inj h
    contradiction
  | ok q =>
    obtain ⟨surface, is⟩ := q
    have hs := writable_of_read hread
    obtain ⟨o', ho', hstop⟩ := exists_runFrom hs 0 is
    rw [run_of_read_ok hread, ho'] at h
    obtain rfl : o' = o := Except.ok.inj h
    obtain ⟨i, r, t, hi⟩ := hstop.exists_tells hs hj
    exact ⟨surface, is, i, r, t, rfl, hi⟩

theorem exists_tells_of_run {text : List Char} {o : Outcome} (h : run {} text = .ok o)
    {position : String} (hp : position ∈ o.positions) :
    ∃ surface t, Rover.Tells surface t position := by
  obtain ⟨j, hj⟩ := List.mem_iff_getElem?.1 hp
  obtain ⟨surface, -, -, -, t, -, -, -, -, htells⟩ := exists_rover_of_run h hj
  exact ⟨surface, t, htells⟩

/-- A run always has an outcome.  Every rover that is placed stays on the surface until a move that
fails it, and every position tells where on the surface its rover came to rest. -/
theorem run_stays_in_bounds {config : RunnerConfig} (h : ∀ n ∈ config.maxWorkers, 1 ≤ n)
    (text : List Char) (machine : Machine) :
    ∃ o, run config text machine = .ok o ∧
      (∀ e, read text = .error e → o = .failed e) ∧
      ∀ surface is, read text = .ok (surface, is) →
        (∀ i ∈ is, ∀ id r, Rover.place id i.placement surface = .ok r →
          Rover.Guarded surface (Text.trim i.commands) r) ∧
        ∀ (k : Nat) position, o.positions[k]? = some position →
          ∃ i r t, is[k]? = some i ∧ Rover.place k i.placement surface = .ok r ∧
            r.guide surface i.commands = (t, none) ∧ Rover.Tells surface t position := by
  rw [run_config_eq h]
  cases hread : read text with
  | error e =>
    refine ⟨_, run_of_read_error hread, ?_, ?_⟩
    · intro d hd
      rw [Except.error.inj hd]
    · intro surface is hok
      contradiction
  | ok p =>
    obtain ⟨surface, is⟩ := p
    have hs := writable_of_read hread
    obtain ⟨o, ho, hstop⟩ := exists_runFrom hs 0 is
    refine ⟨o, by rw [run_of_read_ok hread, ho]; rfl, ?_, ?_⟩
    · intro d hd
      contradiction
    · intro surface' is' hok
      obtain ⟨rfl, rfl⟩ := Prod.mk.inj (Except.ok.inj hok)
      constructor
      · intro i hi id r hplace
        exact Rover.guarded_of_place hplace _
      · intro k position hk
        exact hstop.exists_tells hs hk

/-- Of two rovers the first comes to rest and the second leaves by the east edge. -/
theorem run_stays_in_bounds_of_two :
    (∀ n ∈ some (2 : Int), 1 ≤ n) ∧
      Rover.Tells ⟨1, 1⟩ ⟨0, ⟨1, 0⟩, .east⟩ "1 0 E" ∧
      Rover.Guarded ⟨1, 1⟩ ['M', 'L'] ⟨1, ⟨1, 1⟩, .east⟩ ∧
      Rover.trail ⟨1, 1⟩ ['M', 'L'] ⟨1, ⟨1, 1⟩, .east⟩ =
        [⟨1, ⟨1, 1⟩, .east⟩, ⟨1, ⟨2, 1⟩, .east⟩] := by
  have hw : ∀ n ∈ some (2 : Int), 1 ≤ n := by simp
  let is := pairs (["0 0 N", "RM", "1 1 E", "ML"].map String.toList)
  have hread : read "1 1\n0 0 N\nRM\n1 1 E\nML".toList = .ok (⟨1, 1⟩, is) := by decide
  obtain ⟨o, hrun, -, hcourse⟩ :=
    @run_stays_in_bounds ⟨true, some 2⟩ hw "1 1\n0 0 N\nRM\n1 1 E\nML".toList {}
  have hpositions : run ⟨true, some 2⟩ "1 1\n0 0 N\nRM\n1 1 E\nML".toList =
      .ok ⟨["1 0 E"], some (.robotOutOfBounds 1 2 1)⟩ := by decide +kernel
  obtain rfl := Except.ok.inj (hpositions.symm.trans hrun)
  obtain ⟨hguarded, htells⟩ := hcourse _ _ hread
  obtain ⟨i, r, t, hi, hplace, hguide, htext⟩ := htells 0 "1 0 E" rfl
  refine ⟨hw, ?_, ?_, by decide⟩
  · obtain rfl : ⟨"0 0 N".toList, "RM".toList⟩ = i := Option.some.inj hi
    have hstart : Rover.place 0 "0 0 N".toList ⟨1, 1⟩ = .ok ⟨0, ⟨0, 0⟩, .north⟩ := by decide
    obtain rfl := Except.ok.inj (hstart.symm.trans hplace)
    have hend : Rover.guide ⟨1, 1⟩ "RM".toList ⟨0, ⟨0, 0⟩, .north⟩ =
        (⟨0, ⟨1, 0⟩, .east⟩, none) := by decide
    rw [(Prod.mk.inj (hend.symm.trans hguide)).1]
    exact htext
  · exact hguarded ⟨"1 1 E".toList, "ML".toList⟩ (by decide) 1 _ (by decide)

end Instructions

end Plateau

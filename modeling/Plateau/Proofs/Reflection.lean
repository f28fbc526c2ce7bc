import Plateau.Proofs.Diagnosis
import Plateau.Proofs.Order

namespace Plateau

open Text

/-- North and east change places, and so do south and west. -/
def Heading.reflected : Heading → Heading
  | north => east
  | east => north
  | south => west
  | west => south
  | unknown => unknown

def Point.reflected (p : Point) : Point := ⟨p.y, p.x⟩

def Surface.reflected (s : Surface) : Surface := ⟨s.upperY, s.upperX⟩

def Rover.reflected (r : Rover) : Rover := ⟨r.id, r.point.reflected, r.heading.reflected⟩

def Route.reflected (route : Route) : Route :=
  ⟨route.start.reflected, route.heading.reflected, route.word.map exchangeTurn⟩

/-- Of what stops a rover on its way only a point off the surface has axes. -/
def RunError.reflected : RunError → RunError
  | .robotOutOfBounds id x y => .robotOutOfBounds id y x
  | e => e

theorem Heading.reflected_ne_unknown {h : Heading} (hh : h ≠ unknown) : h.reflected ≠ unknown := by
  cases h <;> first | contradiction | decide

theorem Surface.contains_reflected {s : Surface} {p : Point} :
    s.reflected.Contains p.reflected ↔ s.Contains p := by
  unfold Contains reflected Point.reflected
  tauto

theorem Surface.writable_reflected {s : Surface} (h : s.Writable) : s.reflected.Writable :=
  And.symm h

theorem word_reflected {route : Route} (h : Word route.word) : Word route.reflected.word :=
  word_map_exchangeTurn h

namespace Rover

variable {surface : Surface} {r : Rover}

theorem follow_reflected (r : Rover) (c : Command) :
    r.reflected.follow c.exchanged = (r.follow c).reflected := by
  obtain ⟨id, ⟨x, y⟩, heading⟩ := r
  cases c <;> cases heading <;> rfl

theorem walk_reflected (surface : Surface) (w : List Char) (r : Rover) :
    r.reflected.walk surface.reflected (w.map exchangeTurn) =
      ((r.walk surface w).1.reflected, (r.walk surface w).2.map RunError.reflected) := by
  induction w generalizing r with
  | nil => rfl
  | cons c w ih =>
    rw [List.map_cons]
    cases hc : Command.ofChar? c with
    | none =>
      have hsame : exchangeTurn c = c := exchangeTurn_of_none hc
      simp only [walk, hsame, hc]
      rfl
    | some command =>
      have hc' : Command.ofChar? (exchangeTurn c) = some command.exchanged := by
        rw [Command.ofChar?_exchangeTurn, hc]
        rfl
      have hin : surface.reflected.Contains (r.follow command).reflected.point ↔
          surface.Contains (r.follow command).point := Surface.contains_reflected
      simp only [walk, hc, hc', follow_reflected, hin]
      split
      · exact ih _
      · rfl

theorem outOfBounds_of_walk {w : List Char} {t : Rover} {e : RunError} (hw : Word w)
    (h : r.walk surface w = (t, some e)) : ∃ x y, e = .robotOutOfBounds r.id x y := by
  obtain ⟨v, c, rest, rfl, -, -, hhalts⟩ := walk_eq_some_iff.1 h
  cases hhalts with
  | unreadable hc =>
    obtain ⟨command, hcommand⟩ := Command.exists_of_letter (hw c (by simp))
    rw [hc] at hcommand
    contradiction
  | outside hc hout => exact ⟨_, _, by rw [id_after]⟩

end Rover

namespace Instruction

variable {surface : Surface} {id : Int} {i i' : Instruction} {route : Route}

theorem place_of_route (id : Int) (h : i.Says route) (hin : surface.Contains route.start) :
    Rover.place id i.placement surface = .ok (route.rover id) :=
  Rover.place_eq_ok_iff.2 ⟨rfl, h.1, hin⟩

theorem alone_of_walk {t : Rover} (h : i.Says route) (hin : surface.Contains route.start)
    (hwalk : (route.rover id).walk surface route.word = (t, none)) :
    i.alone surface id = .ok t := by
  rw [alone_of_place (place_of_route id h hin), Rover.guide, trim_eq_iff.2 h.2.1, hwalk]

theorem alone_of_walk_error {t : Rover} {e : RunError} (h : i.Says route)
    (hin : surface.Contains route.start)
    (hwalk : (route.rover id).walk surface route.word = (t, some e)) :
    i.alone surface id = .error e := by
  rw [alone_of_place (place_of_route id h hin), Rover.guide, trim_eq_iff.2 h.2.1, hwalk]

theorem alone_of_outside (id : Int) (h : i.Says route) (hout : ¬surface.Contains route.start) :
    i.alone surface id = .error (.robotOutOfBounds id route.start.x route.start.y) := by
  rw [alone, Rover.place_of_misplaced (.outside h.1 hout)]

/-- A pair of lines and its reflection fare alike, on a surface and on its reflection: both come to
rest, or both lead off the surface. -/
theorem alone_reflected (surface : Surface) (id : Int) (h : i.Says route)
    (h' : i'.Says route.reflected) :
    (∃ t, i.alone surface id = .ok t ∧ i'.alone surface.reflected id = .ok t.reflected) ∨
      ∃ x y, i.alone surface id = .error (.robotOutOfBounds id x y) ∧
        i'.alone surface.reflected id = .error (.robotOutOfBounds id y x) := by
  by_cases hin : surface.Contains route.start
  · have hin' : surface.reflected.Contains route.reflected.start := Surface.contains_reflected.2 hin
    have hwalk' : (route.reflected.rover id).walk surface.reflected route.reflected.word = _ :=
      Rover.walk_reflected surface route.word (route.rover id)
    rcases hwalk : (route.rover id).walk surface route.word with ⟨t, _ | e⟩
    · rw [hwalk] at hwalk'
      exact .inl ⟨t, alone_of_walk h hin hwalk, alone_of_walk h' hin' hwalk'⟩
    · obtain ⟨x, y, rfl⟩ := Rover.outOfBounds_of_walk h.2.2 hwalk
      rw [hwalk] at hwalk'
      exact .inr ⟨x, y, alone_of_walk_error h hin hwalk, alone_of_walk_error h' hin' hwalk'⟩
  · have hout' : ¬surface.reflected.Contains route.reflected.start :=
      mt Surface.contains_reflected.1 hin
    exact .inr ⟨_, _, alone_of_outside id h hin, alone_of_outside id h' hout'⟩

end Instruction

/-- The positions of two outcomes are those of rovers in reflected places, and if they fail, they
fail with one rover, off the surface at reflected points. -/
structure Outcome.Reflects (o o' : Outcome) : Prop where
  positions : List.Forall₂ (fun p p' => ∃ (x y : Int) (h : Heading),
    p = s!"{x} {y} {h.letter}" ∧ p' = s!"{y} {x} {h.reflected.letter}") o.positions o'.positions
  error : (o.error = none ∧ o'.error = none) ∨ ∃ id x y,
    o.error = some (.robotOutOfBounds id x y) ∧ o'.error = some (.robotOutOfBounds id y x)

theorem Outcome.Reflects.cons {o o' : Outcome} (r : Rover) (h : o.Reflects o') :
    (o.cons r.text).Reflects (o'.cons r.reflected.text) where
  positions := .cons ⟨r.point.x, r.point.y, r.heading, rfl, rfl⟩ h.positions
  error := h.error

namespace Instructions

variable {surface : Surface} {text : List Char} {is is' : List Instruction}
  {routes : List Route}

theorem runFrom_reflected (hs : surface.Writable) (id : Nat)
    (h : List.Forall₂ Instruction.Says is routes)
    (h' : List.Forall₂ Instruction.Says is' (routes.map Route.reflected)) :
    ∃ o o', runFrom surface id is = .ok o ∧ runFrom surface.reflected id is' = .ok o' ∧
      o.Reflects o' := by
  induction h generalizing is' id with
  | nil =>
    obtain rfl := List.forall₂_nil_right_iff.1 h'
    exact ⟨{}, {}, rfl, rfl, .nil, .inl ⟨rfl, rfl⟩⟩
  | @cons i route is routes hsaid _ ih =>
    obtain ⟨i', is', hsaid', hrest', rfl⟩ := List.forall₂_cons_right_iff.1 h'
    have hs' := Surface.writable_reflected hs
    rcases Instruction.alone_reflected surface id hsaid hsaid' with
      ⟨t, halone, halone'⟩ | ⟨x, y, halone, halone'⟩
    · obtain ⟨o, o', ho, ho', hreflects⟩ := ih (id + 1) hrest'
      rw [runFrom_cons_of_ok hs halone, runFrom_cons_of_ok hs' halone', ho, ho']
      exact ⟨_, _, rfl, rfl, hreflects.cons t⟩
    · rw [runFrom_cons_of_error hs halone, runFrom_cons_of_error hs' halone']
      exact ⟨_, _, rfl, rfl, .nil, .inr ⟨id, x, y, rfl, rfl⟩⟩

/-- A text whose number of lines is right spells out a surface and routes.  These may lead off the
surface, and begin off it. -/
def Charts (text : List Char) (surface : Surface) (routes : List Route) : Prop :=
  ∃ ls, Laid text ls ∧ 3 ≤ ls.length ∧ ls.length % 2 = 1 ∧ Spells ls surface routes

theorem charts_iff : Charts text surface routes ↔
    ∃ is, read text = .ok (surface, is) ∧ List.Forall₂ Instruction.Says is routes := by
  constructor
  · intro h
    obtain ⟨ls, ⟨core, htrim, hlined⟩, hthree, hodd, first, is, rfl, hnamed, hsaid⟩ := h
    exact ⟨is, read_eq_ok_iff_lined.2 ⟨core, first, htrim, hlined, ⟨hthree, hodd⟩, hnamed⟩, hsaid⟩
  · intro h
    obtain ⟨is, hread, hsaid⟩ := h
    obtain ⟨core, first, htrim, hlined, ⟨hthree, hodd⟩, hnamed⟩ := read_eq_ok_iff_lined.1 hread
    exact ⟨_, ⟨core, htrim, hlined⟩, hthree, hodd, first, is, rfl, hnamed, hsaid⟩

end Instructions

def Surface.exchange (line : List Char) : List Char :=
  match words line with
  | [x, y] => spaced [y, x]
  | _ => line

def Rover.exchange (line : List Char) : List Char :=
  match words line with
  | [x, y, token] =>
    match Heading.ofToken? token with
    | some h => spaced [y, x, [h.reflected.letter]]
    | none => line
  | _ => line

def Instruction.exchange (i : Instruction) : Instruction :=
  ⟨Rover.exchange i.placement, (trim i.commands).map exchangeTurn⟩

theorem Surface.exchange_of_named {line : List Char} {s : Surface} (h : Named line s) :
    Named (exchange line) s.reflected ∧ '\n' ∉ exchange line := by
  obtain ⟨x, y, hw, hx, hy⟩ := h
  have htokens : ∀ w ∈ [y, x], Token w := by
    intro w hmem
    exact hw.token (by simpa [or_comm] using hmem)
  have hline : exchange line = spaced [y, x] := by
    rw [exchange, words_of_spaced hw]
  rw [hline]
  exact ⟨⟨y, x, words_eq_iff.1 (words_spaced htokens), hy, hx⟩, feed_not_mem_spaced htokens⟩

theorem Heading.token_letter (h : Heading) : Token [h.letter] := by
  cases h <;> simp [Token, letter] <;> decide

theorem Rover.exchange_of_placed {line : List Char} {p : Point} {h : Heading}
    (hp : Placed line p h) :
    Placed (exchange line) p.reflected h.reflected ∧ '\n' ∉ exchange line := by
  obtain ⟨x, y, hw, hx, hy, hne⟩ := hp
  have htokens : ∀ w ∈ [y, x, [h.reflected.letter]], Token w := by
    have hxy : Token x ∧ Token y := ⟨hw.token (by simp), hw.token (by simp)⟩
    simpa [hxy.1, hxy.2] using h.reflected.token_letter
  have hline : exchange line = spaced [y, x, [h.reflected.letter]] := by
    rw [exchange, words_of_spaced hw]
    simp only [Heading.ofToken?_letter hne]
  rw [hline]
  exact ⟨⟨y, x, words_eq_iff.1 (words_spaced htokens), hy, hx, Heading.reflected_ne_unknown hne⟩,
    feed_not_mem_spaced htokens⟩

namespace Instruction

variable {i : Instruction} {route : Route}

theorem commands_exchange (h : i.Says route) : i.exchange.commands = route.reflected.word := by
  rw [exchange, trim_eq_iff.2 h.2.1]
  rfl

theorem says_exchange (h : i.Says route) : i.exchange.Says route.reflected := by
  have hword := word_reflected h.2.2
  refine ⟨(Rover.exchange_of_placed h.1).1, ?_, hword⟩
  rw [commands_exchange h]
  exact trim_eq_iff.1 (trim_word hword)

theorem says_trimmed : i.trimmed.Says route ↔ i.Says route := by
  have hplaced : Rover.Placed (trim i.placement) route.start route.heading ↔
      Rover.Placed i.placement route.start route.heading := by
    simp only [Rover.Placed, ← words_eq_iff, words_trim]
  simp only [Says, trimmed, hplaced, ← trim_eq_iff, trim_trim]

end Instruction

namespace Instructions

variable {surface : Surface} {first text : List Char} {is : List Instruction} {routes : List Route}

theorem charts_compose (hfeed : Feedless (first :: is.flatMap Instruction.lines))
    (hnamed : Surface.Named first surface) (hne : is ≠ [])
    (hlast : ∀ i ∈ is.getLast?, ¬Blank i.commands)
    (hsaid : List.Forall₂ Instruction.Says is routes) :
    Charts (compose first is) surface routes := by
  have hlines : (split (compose first is)).map trim =
      (first :: is.flatMap Instruction.lines).map trim := by
    rw [split, compose, map_trim_lines_trim hfeed,
      framed_lines (not_blank_of_named hnamed) hne hlast]
  obtain ⟨first', rest', hsplit, hfirst, hrest⟩ := List.map_eq_cons_iff.1 hlines
  have hshape : checkShape (first' :: rest') = .ok () := by
    rw [← checkShape_map_trim, ← hsplit, hlines, checkShape_map_trim, checkShape_of_pairs first hne]
  have hline : Surface.ofLine first' = .ok surface := by
    rw [← Surface.ofLine_trim, hfirst, Surface.ofLine_trim]
    exact Surface.ofLine_eq_ok_iff.2 hnamed
  have hpairs : (pairs rest').map Instruction.trimmed = is.map Instruction.trimmed := by
    rw [← pairs_map_trim, hrest, pairs_map_trim, pairs_flatMap]
  have hsaid' : List.Forall₂ Instruction.Says (pairs rest') routes := by
    have htrimmed : List.Forall₂ Instruction.Says (is.map Instruction.trimmed) routes :=
      List.forall₂_map_left_iff.2 (hsaid.imp fun _ _ => Instruction.says_trimmed.2)
    rw [← hpairs] at htrimmed
    exact (List.forall₂_map_left_iff.1 htrimmed).imp fun _ _ => Instruction.says_trimmed.1
  have hread : read (compose first is) = .ok (surface, pairs rest') :=
    read_eq_ok_iff.2 ⟨first', rest', hsplit, hshape, hline, rfl⟩
  exact charts_iff.2 ⟨pairs rest', hread, hsaid'⟩

/-- The instruction set with its axes exchanged: the two numbers of every line, the headings, and
the turns. -/
def exchangeAxes (text : List Char) : List Char :=
  match split text with
  | first :: rest => compose (Surface.exchange first) ((pairs rest).map Instruction.exchange)
  | [] => []

theorem exists_route (h : List.Forall₂ Instruction.Says is routes) :
    ∀ i ∈ is, ∃ route, i.Says route := by
  induction h with
  | nil => simp
  | cons hi _ ih => exact List.forall_mem_cons.2 ⟨⟨_, hi⟩, ih⟩

theorem feedless_exchange (hnamed : Surface.Named first surface)
    (hsaid : List.Forall₂ Instruction.Says is routes) :
    Feedless
      (Surface.exchange first :: (is.map Instruction.exchange).flatMap Instruction.lines) := by
  refine feedless_compose (Surface.exchange_of_named hnamed).2 fun i' hi' => ?_
  obtain ⟨i, hi, rfl⟩ := List.mem_map.1 hi'
  obtain ⟨route, hroute⟩ := exists_route hsaid i hi
  rw [Instruction.commands_exchange hroute]
  exact ⟨(Rover.exchange_of_placed hroute.1).2,
    feed_not_mem (not_blank_of_word (word_reflected hroute.2.2))⟩

theorem last_commands_not_blank (hsplit : split text = first :: is.flatMap Instruction.lines) :
    ∀ i ∈ is.getLast?, ¬Blank i.commands := by
  intro i hi
  obtain ⟨before, rfl⟩ := List.getLast?_eq_some_iff.1 hi
  have hends : split text = (first :: (before.flatMap Instruction.lines ++ [i.placement])) ++
      [i.commands] := by
    rw [hsplit]
    simp [Instruction.lines]
  exact last_line_not_blank (List.cons_ne_nil _ _) hends

theorem not_blank_exchange {i : Instruction} {route : Route} (hsaid : i.Says route)
    (h : ¬Blank i.commands) : ¬Blank i.exchange.commands := by
  intro hblank
  have hword := word_reflected hsaid.2.2
  rw [Instruction.commands_exchange hsaid, ← trim_eq_nil_iff, trim_word hword] at hblank
  have hempty : route.word = [] := List.map_eq_nil_iff.1 hblank
  rw [← trim_eq_iff.2 hsaid.2.1, trim_eq_nil_iff] at hempty
  exact h hempty

theorem charts_exchangeAxes (h : Charts text surface routes) :
    Charts (exchangeAxes text) surface.reflected (routes.map Route.reflected) := by
  obtain ⟨is, hread, hsaid⟩ := charts_iff.1 h
  obtain ⟨first, hlaid, hne, hnamed⟩ := read_eq_ok_iff_laid.1 hread
  have hsplit := split_eq_iff.2 hlaid
  have htext : exchangeAxes text =
      compose (Surface.exchange first) (is.map Instruction.exchange) := by
    rw [exchangeAxes, hsplit]
    simp only [pairs_flatMap]
  have hlast : ∀ i ∈ (is.map Instruction.exchange).getLast?, ¬Blank i.commands := by
    rw [List.getLast?_map]
    intro i' hi'
    obtain ⟨i, hi, rfl⟩ := Option.map_eq_some_iff.1 hi'
    obtain ⟨route, hroute⟩ := exists_route hsaid i (List.mem_of_getLast? hi)
    exact not_blank_exchange hroute (last_commands_not_blank hsplit i hi)
  have hreflected : List.Forall₂ Instruction.Says (is.map Instruction.exchange)
      (routes.map Route.reflected) := by
    rw [List.forall₂_map_left_iff, List.forall₂_map_right_iff]
    exact hsaid.imp fun _ _ => Instruction.says_exchange
  rw [htext]
  exact charts_compose (feedless_exchange hnamed hsaid) (Surface.exchange_of_named hnamed).1
    (by simpa using hne) hlast hreflected

/-- The two axes are treated alike.  A text that charts routes over a surface has an exchanged one,
which charts the reflected routes over the reflected surface, and a run of any such text has the
outcome reflected: the same rovers come to rest, at reflected places, and the same rover leaves the
surface, if one does, at the reflected point. -/
theorem run_reflected (h : Charts text surface routes) {config : RunnerConfig}
    (hw : ∀ n ∈ config.maxWorkers, 1 ≤ n) (machine : Machine) :
    Charts (exchangeAxes text) surface.reflected (routes.map Route.reflected) ∧
      ∀ text', Charts text' surface.reflected (routes.map Route.reflected) →
        ∃ o o', run config text machine = .ok o ∧ run config text' machine = .ok o' ∧
          o.Reflects o' := by
  refine ⟨charts_exchangeAxes h, ?_⟩
  intro text' h'
  obtain ⟨is, hread, hsaid⟩ := charts_iff.1 h
  obtain ⟨is', hread', hsaid'⟩ := charts_iff.1 h'
  obtain ⟨o, o', ho, ho', hreflects⟩ :=
    runFrom_reflected (writable_of_read hread) 0 hsaid hsaid'
  refine ⟨o, o', ?_, ?_, hreflects⟩
  · rw [run_config_eq hw, run_of_read_ok hread, ho]
    rfl
  · rw [run_config_eq hw, run_of_read_ok hread', ho']
    rfl

/-- Two rovers on a surface that is wider than high, the second of which leaves it. -/
theorem run_reflected_of_two :
    Charts "5 3\n1 2 N\nLMR\n4 0 E\nMM".toList ⟨5, 3⟩
        [⟨⟨1, 2⟩, .north, "LMR".toList⟩, ⟨⟨4, 0⟩, .east, "MM".toList⟩] ∧
      exchangeAxes "5 3\n1 2 N\nLMR\n4 0 E\nMM".toList =
        "3 5\n2 1 E\nRML\n0 4 N\nMM".toList ∧
      run ⟨true, some 2⟩ "5 3\n1 2 N\nLMR\n4 0 E\nMM".toList =
        .ok ⟨["0 2 N"], some (.robotOutOfBounds 1 6 0)⟩ ∧
      ∃ o', run ⟨true, some 2⟩ "3 5\n2 1 E\nRML\n0 4 N\nMM".toList = .ok o' ∧
        Outcome.Reflects ⟨["0 2 N"], some (.robotOutOfBounds 1 6 0)⟩ o' := by
  have hw : ∀ n ∈ some (2 : Int), 1 ≤ n := by simp
  have hfirst : Rover.place 0 "1 2 N".toList ⟨5, 3⟩ = .ok ⟨0, ⟨1, 2⟩, .north⟩ := by decide
  have hsecond : Rover.place 1 "4 0 E".toList ⟨5, 3⟩ = .ok ⟨1, ⟨4, 0⟩, .east⟩ := by decide
  have hword : Word "LMR".toList ∧ Word "MM".toList := by simp [Word]
  have hcharts : Charts "5 3\n1 2 N\nLMR\n4 0 E\nMM".toList ⟨5, 3⟩
      [⟨⟨1, 2⟩, .north, "LMR".toList⟩, ⟨⟨4, 0⟩, .east, "MM".toList⟩] := by
    refine charts_iff.2 ⟨[⟨"1 2 N".toList, "LMR".toList⟩, ⟨"4 0 E".toList, "MM".toList⟩], by decide,
      .cons ⟨(Rover.place_eq_ok_iff.1 hfirst).2.1, trim_eq_iff.1 (by decide), hword.1⟩
        (.cons ⟨(Rover.place_eq_ok_iff.1 hsecond).2.1, trim_eq_iff.1 (by decide), hword.2⟩ .nil)⟩
  have hrun : run ⟨true, some 2⟩ "5 3\n1 2 N\nLMR\n4 0 E\nMM".toList =
      .ok ⟨["0 2 N"], some (.robotOutOfBounds 1 6 0)⟩ := by decide +kernel
  have htext : exchangeAxes "5 3\n1 2 N\nLMR\n4 0 E\nMM".toList =
      "3 5\n2 1 E\nRML\n0 4 N\nMM".toList := by decide +kernel
  let config : RunnerConfig := ⟨true, some 2⟩
  have hall := @run_reflected _ _ _ hcharts config hw {}
  obtain ⟨o, o', ho, ho', hreflects⟩ := hall.2 _ hall.1
  rw [htext] at ho'
  obtain rfl := Except.ok.inj (hrun.symm.trans ho)
  exact ⟨hcharts, htext, hrun, o', ho', hreflects⟩

end Instructions

end Plateau

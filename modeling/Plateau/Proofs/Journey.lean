import Plateau.Proofs.Course
import Plateau.Proofs.Reading
import Plateau.Run

namespace Plateau

open Text (Trimmed trim_eq_iff)

/-- A placement and a word of commands. -/
structure Route where
  start : Point
  heading : Heading
  word : List Char

namespace Route

def pointAt (route : Route) (k : Nat) : Point :=
  route.start.shift (displacement route.heading (route.word.take k))

def headingAt (route : Route) (k : Nat) : Heading :=
  route.heading.turned (quarterTurns (route.word.take k))

def rest (route : Route) : String :=
  let p := route.pointAt route.word.length
  s!"{p.x} {p.y} {(route.headingAt route.word.length).letter}"

/-- The whole course, the start included, lies on the surface. -/
def On (surface : Surface) (route : Route) : Prop :=
  ∀ k ≤ route.word.length, surface.Contains (route.pointAt k)

/-- The coordinates are never below zero nor above the bounds. -/
theorem on_iff_coordinates {surface : Surface} {route : Route} :
    route.On surface ↔ ∀ k ≤ route.word.length,
      (0 ≤ (route.pointAt k).x ∧ (route.pointAt k).x ≤ surface.upperX) ∧
        0 ≤ (route.pointAt k).y ∧ (route.pointAt k).y ≤ surface.upperY :=
  forall₂_congr fun _ _ => and_assoc.symm

def rover (id : Int) (route : Route) : Rover := ⟨id, route.start, route.heading⟩

theorem after_rover (id : Int) (route : Route) (k : Nat) :
    (route.rover id).after (route.word.take k) = ⟨id, route.pointAt k, route.headingAt k⟩ :=
  Rover.after_eq _ _

theorem on_iff {surface : Surface} (id : Int) {route : Route} :
    route.On surface ↔
      surface.Contains route.start ∧ (route.rover id).Stays surface route.word := by
  have h0 : route.pointAt 0 = route.start := by
    simp [pointAt, displacement, Point.shift]
  constructor
  · intro h
    refine ⟨h0 ▸ h 0 (Nat.zero_le _), fun k hk => ?_⟩
    rw [after_rover]
    exact h (k + 1) hk
  · rintro ⟨hstart, hs⟩ k hk
    cases k with
    | zero => rwa [h0]
    | succ k =>
      have h := hs k hk
      rwa [after_rover] at h

end Route

def RunError.roverId? : RunError → Option Int
  | .robotInstructionLength id _ _ | .robotCoordinateParse id _ _ | .robotDirectionParse id _
  | .robotOutOfBounds id _ _ | .robotMovementParse id _ => some id
  | _ => none

namespace Instruction

/-- What comes of a pair that is taken alone: the rover at rest, or the failure in placing or
guiding it. -/
def alone (surface : Surface) (id : Int) (i : Instruction) : Except RunError Rover :=
  match Rover.place id i.placement surface with
  | .error e => .error e
  | .ok rover =>
    match rover.guide surface i.commands with
    | (_, some e) => .error e
    | (rested, none) => .ok rested

def Says (i : Instruction) (route : Route) : Prop :=
  Rover.Placed i.placement route.start route.heading ∧ Trimmed i.commands route.word ∧
    Word route.word

def fails (surface : Surface) (i : Instruction) : Bool :=
  match i.alone surface 0 with
  | .error _ => true
  | .ok _ => false

variable {surface : Surface} {id : Int} {i : Instruction}

theorem alone_of_place {r : Rover} (h : Rover.place id i.placement surface = .ok r) :
    i.alone surface id =
      match r.guide surface i.commands with
      | (_, some e) => .error e
      | (rested, none) => .ok rested := by
  rw [alone, h]

theorem alone_eq_ok_iff {t : Rover} :
    i.alone surface id = .ok t ↔
      ∃ route : Route, i.Says route ∧ route.On surface ∧
        t = ⟨id, route.pointAt route.word.length, route.headingAt route.word.length⟩ := by
  constructor
  · intro h
    cases hplace : Rover.place id i.placement surface with
    | error e =>
      rw [alone, hplace] at h
      contradiction
    | ok r =>
      rw [alone_of_place hplace, Rover.guide] at h
      obtain ⟨rfl, hplaced, hin⟩ := Rover.place_eq_ok_iff.1 hplace
      rcases Rover.walk_cases surface (Text.trim i.commands) r with
        ⟨hword, hstays, hwalk⟩ | ⟨v, c, rest, u, e, -, -, -, -, hwalk⟩
      · rw [hwalk] at h
        obtain rfl := Except.ok.inj h
        let route : Route := ⟨r.point, r.heading, Text.trim i.commands⟩
        have hon : route.On surface := (Route.on_iff r.id).2 ⟨hin, hstays⟩
        refine ⟨route, ⟨hplaced, trim_eq_iff.1 rfl, hword⟩, hon, ?_⟩
        rw [← route.after_rover, List.take_length]
        rfl
      · rw [hwalk] at h
        contradiction
  · rintro ⟨route, ⟨hplaced, htrim, hword⟩, hon, rfl⟩
    obtain ⟨hin, hstays⟩ := (Route.on_iff id).1 hon
    have hplace : Rover.place id i.placement surface = .ok (route.rover id) :=
      Rover.place_eq_ok_iff.2 ⟨rfl, hplaced, hin⟩
    rw [alone_of_place hplace, Rover.guide, trim_eq_iff.2 htrim, Rover.walk_of_stays hword hstays,
      ← route.after_rover, List.take_length]

theorem fails_eq_false_iff (id : Int) :
    i.fails surface = false ↔ ∃ t, i.alone surface id = .ok t := by
  have hroute (id' : Int) :
      (∃ t, i.alone surface id' = .ok t) ↔ ∃ route : Route, i.Says route ∧ route.On surface := by
    simp only [alone_eq_ok_iff]
    constructor
    · rintro ⟨_, route, hsays, hon, -⟩
      exact ⟨route, hsays, hon⟩
    · rintro ⟨route, hsays, hon⟩
      exact ⟨_, route, hsays, hon, rfl⟩
  rw [hroute, ← hroute 0]
  unfold fails
  cases i.alone surface 0 with
  | error e => simp
  | ok t => simp

theorem fails_eq_true_iff (id : Int) :
    i.fails surface = true ↔ ∃ e, i.alone surface id = .error e := by
  have h : i.fails surface = false ↔ ∃ t, i.alone surface id = .ok t := fails_eq_false_iff id
  cases ha : i.alone surface id with
  | error e =>
    rw [ha] at h
    simpa using h
  | ok t =>
    rw [ha] at h
    simpa using h

/-- Why a pair fails that is taken alone. -/
inductive Failing (surface : Surface) (id : Int) (i : Instruction) : RunError → Prop where
  | misplaced {e : RunError} (h : Rover.Misplaced id i.placement surface e) : Failing surface id i e
  | halted {r t : Rover} {v rest : List Char} {c : Char} {e : RunError} (hid : r.id = id)
    (hplaced : Rover.Placed i.placement r.point r.heading) (hin : surface.Contains r.point)
    (htrim : Trimmed i.commands (v ++ c :: rest)) (hword : Word v) (hstays : r.Stays surface v)
    (h : (r.after v).Halts surface c t e) : Failing surface id i e

theorem failing_of_alone {e : RunError} (h : i.alone surface id = .error e) :
    Failing surface id i e := by
  cases hplace : Rover.place id i.placement surface with
  | error d =>
    rw [alone, hplace] at h
    obtain rfl := Except.error.inj h
    exact .misplaced (Rover.misplaced_of_place hplace)
  | ok r =>
    rw [alone_of_place hplace, Rover.guide] at h
    obtain ⟨hid, hplaced, hin⟩ := Rover.place_eq_ok_iff.1 hplace
    rcases Rover.walk_cases surface (Text.trim i.commands) r with
      ⟨-, -, hwalk⟩ | ⟨v, c, rest, t, d, hsplit, hword, hstays, hhalts, hwalk⟩
    · rw [hwalk] at h
      contradiction
    · rw [hwalk] at h
      obtain rfl := Except.error.inj h
      exact .halted hid hplaced hin (trim_eq_iff.1 hsplit) hword hstays hhalts

theorem roverId_of_failing {e : RunError} (h : Failing surface id i e) : e.roverId? = some id := by
  cases h with
  | misplaced h => cases h <;> rfl
  | halted hid _ _ _ _ _ h =>
    cases h with
    | unreadable hc => simpa [RunError.roverId?] using hid
    | outside hc hout => simpa [RunError.roverId?] using hid

theorem run_eq (hs : surface.Writable) (id : Nat) (i : Instruction) :
    ∃ placed, i.run surface id = .ok ⟨placed, (i.alone surface id).map Rover.text⟩ := by
  cases hplace : Rover.place id i.placement surface with
  | error e =>
    rw [run, alone, hplace]
    exact ⟨false, rfl⟩
  | ok r =>
    have halone := alone_of_place hplace
    rw [run, hplace]
    dsimp only
    rcases hguide : r.guide surface i.commands with ⟨rested, _ | e⟩
    · rw [hguide] at halone
      obtain ⟨route, -, hon, rfl⟩ := alone_eq_ok_iff.1 halone
      rw [halone]
      dsimp only
      rw [Rover.render_of_contains hs (hon _ le_rfl)]
      exact ⟨true, rfl⟩
    · rw [halone, hguide]
      exact ⟨true, rfl⟩

theorem run_of_place_error {surface : Surface} {id : Nat} {i : Instruction} {e : RunError}
    (h : Rover.place id i.placement surface = .error e) :
    i.run surface id = .ok ⟨false, .error e⟩ := by
  rw [run, h]

theorem run_of_place_ok {surface : Surface} (hs : surface.Writable) {id : Nat} {i : Instruction}
    {r : Rover} (h : Rover.place id i.placement surface = .ok r) :
    i.run surface id = .ok ⟨true, (i.alone surface id).map Rover.text⟩ := by
  obtain ⟨placed, hrun⟩ := i.run_eq hs id
  have hplaced : placed = true := by
    have hjourney := hrun
    rw [run, h] at hjourney
    dsimp only at hjourney
    rcases hguide : r.guide surface i.commands with ⟨rested, _ | e⟩
    · rw [hguide] at hjourney
      obtain ⟨position, -, hsame⟩ := bind_eq_ok_iff.1 hjourney
      exact (congrArg Journey.placed (Except.ok.inj hsame)).symm
    · rw [hguide] at hjourney
      exact (congrArg Journey.placed (Except.ok.inj hjourney)).symm
  rw [hrun, hplaced]

end Instruction

end Plateau

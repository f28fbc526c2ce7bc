import Plateau.Proofs.Cli.Reply
import Plateau.Proofs.Settings.Sections

namespace Plateau

open Check (Reads)
open Service (Overflows Proper)

namespace Cli

/-- If a run ends the call, then over a number that is too long. -/
def Reply.Excused (r : Reply) : Prop := ∀ f, r.crash = some (.run f) → Overflows f

theorem excused_of_no_crash {r : Reply} (h : r.crash = none) : r.Excused := by
  intro f hf
  rw [h] at hf
  contradiction

theorem excused_crashed {errors : List Char} {crash : Crash} (h : ∀ f, crash ≠ .run f) :
    (Reply.crashed errors crash).Excused := by
  intro f hf
  exact absurd (Option.some.inj hf) (h f)

variable {env : Surroundings} {s : Settings}

theorem excused_perform {work : Service.Work Report} (h : Proper work) :
    (perform env s work).Excused := by
  have herror : ∀ f, emission env s work = .error (.run f) → Overflows f := by
    intro f hf
    rcases bind_eq_error_iff.1 hf with hf | ⟨report, -, hf⟩
    · obtain ⟨g, hg, hcrash⟩ := mapError_eq_error_iff.1 hf
      obtain rfl := Crash.run.inj hcrash
      exact h.error _ g hg
    · obtain ⟨g, -, hcrash⟩ := mapError_eq_error_iff.1 hf
      contradiction
  intro f hf
  rw [perform_eq] at hf
  cases hemission : emission env s work with
  | error crash =>
    rw [hemission] at hf
    obtain rfl : crash = .run f := Option.some.inj hf
    exact herror f hemission
  | ok reply =>
    rw [hemission] at hf
    obtain ⟨report, -, hreport⟩ := bind_eq_ok_iff.1 hemission
    have hnone : reply.crash = none := crash_of_emitReport (mapError_eq_ok_iff.1 hreport)
    have hsome : reply.crash = some (.run f) := hf
    rw [hnone] at hsome
    contradiction

variable (hworkers : ∀ n ∈ s.runnerConfig.maxWorkers, 1 ≤ n)
include hworkers

theorem excused_runSource (source : Source) : (runSource env s source).Excused := by
  unfold runSource
  split
  · exact excused_crashed (by simp)
  · exact excused_perform (Service.proper_run hworkers _ _)

theorem excused_performAction (a : Action) (file : Option Source) (text : Option String) :
    (a.perform env s file text).Excused := by
  cases a with
  | demo => exact excused_perform (Service.proper_demo hworkers _)
  | run =>
    unfold Action.perform
    dsimp only
    split
    · exact excused_of_no_crash rfl
    · exact excused_runSource hworkers _

theorem excused_start (a : Action) (text : Option String) (others : List String) :
    (a.start env s text others).Excused := by
  have hrefuse (extra : List String) (file : Option Source) :
      (Action.start.refuse a env s text extra file).Excused := by
    cases extra with
    | nil => exact excused_performAction hworkers a file text
    | cons first rest => exact excused_of_no_crash rfl
  unfold Action.start
  dsimp only
  split
  · exact hrefuse _ _
  · split
    · exact excused_crashed (by simp)
    · split
      · exact excused_of_no_crash rfl
      · exact hrefuse _ _

theorem excused_callAction (a : Action) (arguments : List String) :
    (a.call env s arguments).Excused := by
  unfold Action.call
  split
  · exact excused_of_no_crash rfl
  · split
    · exact excused_of_no_crash rfl
    · exact excused_of_no_crash rfl
    · exact excused_start hworkers a _ _

omit hworkers

theorem excused_withSettings {uses : List (Use RootOption)} {go : Settings → Reply}
    (h : ∀ s, Settings.load env.host (lastValue? .config uses) none (flagsOf uses) = .ok s →
      (go s).Excused) : (withSettings env uses go).Excused := by
  unfold withSettings
  split
  · rename_i s hload
    exact h s hload
  · exact excused_of_no_crash rfl
  · exact excused_crashed (by simp)

theorem excused_unknownCommand (name : String) (rest : List String) :
    (unknownCommand name rest).Excused := by
  unfold unknownCommand
  split
  · exact excused_of_no_crash rfl
  · split
    · rename_i tag _
      cases tag <;> exact excused_of_no_crash rfl
    · exact excused_of_no_crash rfl

theorem excused_call (env : Surroundings) (arguments : List String) :
    (call env arguments).Excused := by
  unfold call
  split
  · exact excused_of_no_crash rfl
  · split
    · rename_i tag _ _
      cases tag <;> exact excused_of_no_crash rfl
    · exact excused_withSettings fun _ _ => excused_of_no_crash rfl
    · split
      · exact excused_unknownCommand _ _
      · rename_i action _
        exact excused_withSettings fun s hload =>
          excused_callAction (Settings.workers_of_load hload) action _

end Cli

namespace Settings

open Environment (assigned? plainKeys)

/-- The variables and the file are merged leaf by leaf, and what is merged is checked: a console has
its least width, and a pool, whatever overrides the sections, at least one worker. -/
theorem sections_merged {h : Host} {explicit : Option String} {start : Option Path} {flags : Fields}
    {s : Settings} (hload : load h explicit start flags = .ok s)
    (hflags : ∀ key ∈ flags.keys, key ∈ plainKeys) (hrunner : assigned? h.env "runner" = none)
    (houtput : assigned? h.env "output" = none) :
    (∃ source file, configuration h explicit start = .ok (source, file) ∧ s.Merged h.env file) ∧
      (∀ n ∈ s.runner.maxWorkers, 1 ≤ n) ∧ 20 ≤ s.output.width ∧
      s.runnerConfig.maxWorkers = s.runner.maxWorkers ∧
      s.runnerConfig.parallel = s.parallel.getD s.runner.parallel ∧
      ∀ env arguments, (Cli.call env arguments).crash ≠ some (.run .noWorkers) := by
  obtain ⟨source, file, _, hfile, -, -⟩ := load_eq_ok_iff.1 hload
  refine ⟨⟨source, file, hfile, merged_of_load hload hflags hrunner houtput hfile⟩, ?_,
    width_of_load hload, s.maxWorkers_runnerConfig, s.parallel_runnerConfig, ?_⟩
  · rw [← maxWorkers_runnerConfig]
    exact workers_of_load hload
  · intro env arguments hcrash
    obtain ⟨o, ho⟩ := Cli.excused_call env arguments _ hcrash
    contradiction

/-- A variable for one leaf of a section of which the file sets the other. -/
theorem sections_merged_siblings :
    let h : Host :=
      { env := [("ROVERCTL_RUNNER__MAX_WORKERS", "3")]
        files := FileTree.empty.addFile ["roverctl.toml"]
          ("[runner]\nparallel = true\n[output]\nwidth = 40\n".toList.map (·.toNat.toUInt8)) }
    ∃ s source file, load h none none [("quiet", .bool true), ("parallel", .null)] = .ok s ∧
      s.runner = ⟨true, some 3⟩ ∧ s.output = ⟨true, 40⟩ ∧
      configuration h none none = .ok (source, file) ∧ s.Merged h.env file := by
  intro h
  have hload : load h none none [("quiet", .bool true), ("parallel", .null)] =
      .ok { source := some (.ofPlace ["roverctl.toml"]), quiet := true, runner := ⟨true, some 3⟩,
            output := ⟨true, 40⟩ } := by
    decide +kernel
  obtain ⟨⟨source, file, hfile, hmerged⟩, -⟩ :=
    sections_merged hload (by decide) (by decide +kernel) (by decide +kernel)
  exact ⟨_, source, file, hload, rfl, rfl, hfile, hmerged⟩

end Settings

end Plateau

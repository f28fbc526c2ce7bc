import Plateau.Proofs.Cli.Arguments
import Plateau.Proofs.Cli.Workers

namespace Plateau.Cli

open Check (Reads)
open Environment (plainKeys)

section Exchange

variable {h : Host} {explicit : Option String} {start : Option Path}
  {uses uses' : List (Use RootOption)} {s : Settings}

theorem mem_plainKeys_of_saidFlags {key : String} (hkey : key ∈ (saidFlags uses).keys) :
    key ∈ plainKeys := by
  have hall : ∀ key ∈ ["json_output", "quiet", "verbose", "log_json", "parallel"],
      key ∈ plainKeys := by decide
  apply hall
  unfold saidFlags at hkey
  cases hchoice : parallelChoice uses with
  | none =>
    rw [hchoice] at hkey
    exact List.mem_append_left ["parallel"] hkey
  | some b =>
    rw [hchoice] at hkey
    exact hkey

/-- The settings under other options of the command line, if these make a choice between workers and
one after the other that was made before. -/
def switched (s : Settings) (uses : List (Use RootOption)) : Settings :=
  { s with
    json := Switch.json.given uses
    quiet := Switch.quiet.given uses
    verbose := Switch.verbose.given uses
    logJson := Switch.logJson.given uses
    parallel := (parallelChoice uses).or s.parallel }

/-- The command line has no part in the sections. -/
theorem get?_section_exchanged {environment file : Fields} (hnodup : environment.keys.Nodup)
    {name : String} (hname : name ∉ plainKeys) :
    (Fields.overlay file (Fields.overlay environment (saidFlags uses'))).get? name =
      (Fields.overlay file (Fields.overlay environment (saidFlags uses))).get? name := by
  have hnot (uses : List (Use RootOption)) : name ∉ (saidFlags uses).keys := fun hmem =>
    hname (mem_plainKeys_of_saidFlags hmem)
  rw [Settings.get?_section hnodup (hnot uses') file, Settings.get?_section hnodup (hnot uses) file]

theorem reads_parallel_exchanged {env : List (String × String)} {file : Fields} {b : Option Bool}
    (hreads : Reads (Check.optional Check.bool) none
      (preferred (parallelChoice uses) env file "parallel") b)
    (hchoice : parallelChoice uses' = parallelChoice uses ∨ (parallelChoice uses').isSome) :
    Reads (Check.optional Check.bool) none (preferred (parallelChoice uses') env file "parallel")
      ((parallelChoice uses').or b) := by
  cases hsaid : parallelChoice uses' with
  | some said => exact rfl
  | none =>
    rw [hsaid] at hchoice
    rcases hchoice with hsame | hsome
    · rwa [← hsame] at hreads
    · contradiction

theorem known_exchanged {environment file : Fields}
    (hknown : ∀ key ∈ (Fields.overlay file (Fields.overlay environment (saidFlags uses))).keys,
      Settings.isKnown key = true) {key : String}
    (hkey : key ∈ (Fields.overlay file (Fields.overlay environment (saidFlags uses'))).keys) :
    Settings.isKnown key = true := by
  simp only [Fields.mem_keys_overlay] at hkey hknown
  rcases hkey with hfile | henvironment | hsaid
  · exact hknown key (.inl hfile)
  · exact hknown key (.inr (.inl henvironment))
  · have hplain : ∀ key ∈ plainKeys, Settings.isKnown key = true := by decide
    exact hplain key (mem_plainKeys_of_saidFlags hsaid)

theorem load_switched (hload : Settings.load h explicit start (flagsOf uses) = .ok s)
    (hchoice : parallelChoice uses' = parallelChoice uses ∨ (parallelChoice uses').isSome) :
    Settings.load h explicit start (flagsOf uses') = .ok (switched s uses') := by
  obtain ⟨source, file, environment, hfile, henv, hchecked⟩ := Settings.load_eq_ok_iff.1 hload
  have hparallel := parallel_of_load hload hfile
  have hnodup := Settings.nodup_environmentFields henv
  rw [filter_flagsOf] at hchecked
  refine Settings.load_eq_ok_iff.2 ⟨source, file, environment, hfile, henv, ?_⟩
  rw [filter_flagsOf]
  have hswitch (w : Switch) : Reads Check.bool false
      ((Fields.overlay file (Fields.overlay environment (saidFlags uses'))).get? w.key)
      (w.given uses') := by
    rw [get?_sources_switch henv uses' w file]
    exact rfl
  refine ⟨hchecked.source, hswitch .json, hswitch .quiet, hswitch .verbose, hswitch .logJson,
    ?_, ?_, ?_, fun key => known_exchanged hchecked.known⟩
  · rw [get?_sources henv (nodup_saidFlags uses') (by decide) (get?_saidFlags_parallel uses') file]
    exact reads_parallel_exchanged hparallel hchoice
  · rw [get?_section_exchanged hnodup (by decide)]
    exact hchecked.runner
  · rw [get?_section_exchanged hnodup (by decide)]
    exact hchecked.output

theorem switched_self (hload : Settings.load h explicit start (flagsOf uses) = .ok s) :
    switched s uses = s :=
  Except.ok.inj ((load_switched hload (.inl rfl)).symm.trans hload)

end Exchange

/-- Uses of the options `new` stand in the place of uses of `old`. -/
def Exchanges (old new : List RootOption) (uses uses' : List (Use RootOption)) : Prop :=
  ∃ before olds news after, olds.map (·.tag) = old ∧ news.map (·.tag) = new ∧
    uses = before ++ olds ++ after ∧ uses' = before ++ news ++ after

namespace Exchanges

variable {old new : List RootOption} {uses uses' : List (Use RootOption)}
  (h : Exchanges old new uses uses')
include h

theorem filter_eq {p : RootOption → Bool} (hp : ∀ tag ∈ old ++ new, p tag = false) :
    uses'.filter (p ·.tag) = uses.filter (p ·.tag) := by
  obtain ⟨before, olds, news, after, rfl, rfl, rfl, rfl⟩ := h
  obtain ⟨hold, hnew⟩ := List.forall_mem_append.1 hp
  have hnone {us : List (Use RootOption)} (hus : ∀ tag ∈ us.map (·.tag), p tag = false) :
      us.filter (p ·.tag) = [] := by
    simpa using hus
  rw [List.filter_append, List.filter_append, List.filter_append, List.filter_append, hnone hold,
    hnone hnew]

theorem find?_eq {p : RootOption → Bool} (hp : ∀ tag ∈ old ++ new, p tag = false) :
    uses'.find? (p ·.tag) = uses.find? (p ·.tag) := by
  rw [← List.head?_filter, ← List.head?_filter, h.filter_eq hp]

theorem firstOf_eq {p : RootOption → Bool} (hp : ∀ tag ∈ old ++ new, p tag = false) :
    firstOf p uses' = firstOf p uses := by
  rw [firstOf, firstOf, h.find?_eq hp]

theorem lastValue?_eq {tag : RootOption} (htag : tag ∉ old ++ new) :
    lastValue? tag uses' = lastValue? tag uses := by
  have hp : ∀ t ∈ old ++ new, (t == tag) = false := fun t ht =>
    beq_false_of_ne (ne_of_mem_of_not_mem ht htag)
  rw [lastValue?, lastValue?, h.filter_eq hp]

theorem given_eq {w : Switch} (htag : w.tag ∉ old ++ new) : w.given uses' = w.given uses := by
  have hp : ∀ t ∈ old ++ new, (t == w.tag) = false := fun t ht =>
    beq_false_of_ne (ne_of_mem_of_not_mem ht htag)
  rw [Switch.given, Switch.given, ← List.isSome_find?, ← List.isSome_find?, h.find?_eq hp]

theorem parallelChoice_eq (hp : ∀ tag ∈ old ++ new, tag ≠ .parallel ∧ tag ≠ .sequential) :
    parallelChoice uses' = parallelChoice uses := by
  have hchoice : ∀ tag ∈ old ++ new, (tag == .parallel || tag == .sequential) = false := by
    intro tag htag
    simpa using hp tag htag
  rw [parallelChoice, parallelChoice, h.filter_eq hchoice]

theorem isSome_parallelChoice (hnew : .parallel ∈ new) : (parallelChoice uses').isSome := by
  obtain ⟨before, olds, news, after, -, rfl, -, rfl⟩ := h
  obtain ⟨u, hu, htag⟩ := List.mem_map.1 hnew
  have hmem : u ∈ (before ++ news ++ after).filter
      fun u => u.tag == .parallel || u.tag == .sequential := by
    simp [hu, htag]
  rw [parallelChoice, Option.isSome_map, List.getLast?_isSome]
  exact List.ne_nil_of_mem hmem

end Exchanges

def runInline (env : Surroundings) (front : List String) (text : String) : Reply :=
  call env (front ++ ["run", "-i", text])

variable {env : Surroundings} {front front' : List String} {uses uses' : List (Use RootOption)}
  {s : Settings} {text : String}

def inlineWork (env : Surroundings) (s : Settings) (text : String) : Service.Work Report :=
  Service.run s.runnerConfig "<instructions>" (Text.spellNewlines text.toList) (env.machines 0)

theorem runInline_of_self (h : Uses front uses) {tag : RootOption}
    (hself : firstOf RootOption.answersItself uses = some tag) :
    runInline env front text = answerTo tag := by
  have hcall := call_of_uses env h .run ["-i", text]
  rwa [hself] at hcall

theorem runInline_of_load (h : Uses front uses)
    (hself : firstOf RootOption.answersItself uses = none)
    (hload : Settings.load env.host (lastValue? .config uses) none (flagsOf uses) = .ok s) :
    runInline env front text = perform env s (inlineWork env s text) := by
  have hcall := call_of_uses env h .run ["-i", text]
  rw [hself] at hcall
  dsimp only at hcall
  rw [withSettings, hload] at hcall
  exact hcall.trans (call_inline env s text)

theorem runInline_exchanged {old new : List RootOption} (h : Exchanges old new uses uses')
    (hself : ∀ tag ∈ old ++ new, tag.answersItself = false) (hconfig : .config ∉ old ++ new)
    (hchoice : parallelChoice uses' = parallelChoice uses ∨ (parallelChoice uses').isSome)
    (hfront : Uses front uses) (hfront' : Uses front' uses')
    (hload : Settings.load env.host (lastValue? .config uses) none (flagsOf uses) = .ok s)
    (text : String) :
    runInline env front text = runInline env front' text ∨
      runInline env front text = perform env s (inlineWork env s text) ∧
        runInline env front' text =
          perform env (switched s uses') (inlineWork env (switched s uses') text) := by
  have hfirst := h.firstOf_eq hself
  cases htag : firstOf RootOption.answersItself uses with
  | some tag =>
    left
    rw [runInline_of_self hfront htag, runInline_of_self hfront' (hfirst.trans htag)]
  | none =>
    right
    have hload' := load_switched hload hchoice
    rw [← h.lastValue?_eq hconfig] at hload'
    exact ⟨runInline_of_load hfront htag hload,
      runInline_of_load hfront' (hfirst.trans htag) hload'⟩

section

variable (hfront : Uses front uses) (hfront' : Uses front' uses')
  (hload : Settings.load env.host (lastValue? .config uses) none (flagsOf uses) = .ok s)
include hfront hfront' hload

theorem sameResult_of_logJson (h : Exchanges [] [.logJson] uses uses') (text : String) :
    (runInline env front text).SameResult (runInline env front' text) := by
  have hchoice := h.parallelChoice_eq (by decide)
  rcases runInline_exchanged h (by decide) (by decide) (.inl hchoice) hfront hfront' hload text with
    heq | ⟨hreply, hreply'⟩
  · rw [heq]
    exact .refl _
  · rw [hreply, hreply']
    apply perform_sameResult
    have hsettings : switched s uses' = { s with logJson := Switch.logJson.given uses' } := by
      conv_rhs => rw [← switched_self hload]
      unfold switched
      rw [h.given_eq (w := .json) (by decide), h.given_eq (w := .quiet) (by decide),
        h.given_eq (w := .verbose) (by decide), hchoice]
    rw [hsettings]
    rfl

theorem sameResult_of_verbose (h : Exchanges [] [.verbose] uses uses')
    (hquiet : Switch.quiet.given uses = true) (hjson : Switch.json.given uses = false)
    (text : String) : (runInline env front text).SameResult (runInline env front' text) := by
  have hchoice := h.parallelChoice_eq (by decide)
  rcases runInline_exchanged h (by decide) (by decide) (.inl hchoice) hfront hfront' hload text with
    heq | ⟨hreply, hreply'⟩
  · rw [heq]
    exact .refl _
  · rw [hreply, hreply']
    apply perform_sameResult
    obtain ⟨o, ho⟩ := Instructions.exists_run (Text.spellNewlines text.toList)
    have hload' := load_switched hload (.inl hchoice)
    have hjson' : (switched s uses').json = false :=
      (h.given_eq (w := .json) (by decide)).trans hjson
    have hquiet' : (switched s uses').quiet = true :=
      (h.given_eq (w := .quiet) (by decide)).trans hquiet
    rw [inlineWork, inlineWork,
      emission_run_quiet ((value_of_load hload .json).trans hjson)
        ((value_of_load hload .quiet).trans hquiet) (Settings.workers_of_load hload) ho,
      emission_run_quiet hjson' hquiet' (Settings.workers_of_load hload') ho]

theorem runInline_eq_of_parallel (h : Exchanges [.sequential] [.parallel] uses uses')
    (hverbose : Switch.verbose.given uses = false) (text : String) :
    runInline env front text = runInline env front' text := by
  have hchoice := h.isSome_parallelChoice (by decide)
  rcases runInline_exchanged h (by decide) (by decide) (.inr hchoice) hfront hfront' hload text with
    heq | ⟨hreply, hreply'⟩
  · exact heq
  · obtain ⟨o, ho⟩ := Instructions.exists_run (Text.spellNewlines text.toList)
    have hload' := load_switched hload (.inr hchoice)
    have hverbose' : (switched s uses').verbose = false :=
      (h.given_eq (w := .verbose) (by decide)).trans hverbose
    have hsettings : (switched s uses').outputSettings = s.outputSettings := by
      conv_rhs => rw [← switched_self hload]
      unfold switched Settings.outputSettings
      rw [h.given_eq (w := .json) (by decide), h.given_eq (w := .quiet) (by decide),
        h.given_eq (w := .verbose) (by decide)]
    rw [hreply, hreply', inlineWork, inlineWork,
      perform_run_of_silent ((value_of_load hload .verbose).trans hverbose)
        (Settings.workers_of_load hload) ho,
      perform_run_of_silent hverbose' (Settings.workers_of_load hload') ho, hsettings]

end

theorem exchanges_of_arguments {front back old new : List String}
    {before after olds news : List (Use RootOption)} (hfront : Uses front before)
    (hold : Uses old olds) (hnew : Uses new news) (hback : Uses back after)
    (hdashes : "--" ∉ front ++ old ++ new) :
    Uses (front ++ old ++ back) (before ++ olds ++ after) ∧
      Uses (front ++ new ++ back) (before ++ news ++ after) ∧
      Exchanges (olds.map (·.tag)) (news.map (·.tag)) (before ++ olds ++ after)
        (before ++ news ++ after) := by
  have hfirst : "--" ∉ front := by simp_all
  have hbetween : "--" ∉ front ++ old ∧ "--" ∉ front ++ new := by simp_all
  exact ⟨(hfront.append hfirst hold).append hbetween.1 hback,
    (hfront.append hfirst hnew).append hbetween.2 hback,
    before, olds, news, after, rfl, rfl, rfl, rfl⟩

/-- The output and the exit code tell the result of a run alone: the form of the log has no part in
them, its detail none if bare positions are asked for, and workers change nothing at all in a call
that does not ask for details. -/
theorem results_reserved (hfront : Uses front uses) (hfront' : Uses front' uses')
    (hload : Settings.load env.host (lastValue? .config uses) none (flagsOf uses) = .ok s)
    (text : String) :
    (Exchanges [] [.logJson] uses uses' →
      (runInline env front text).SameResult (runInline env front' text)) ∧
    (Exchanges [] [.verbose] uses uses' → Switch.quiet.given uses = true →
      Switch.json.given uses = false →
      (runInline env front text).SameResult (runInline env front' text)) ∧
    (Exchanges [.sequential] [.parallel] uses uses' → Switch.verbose.given uses = false →
      runInline env front text = runInline env front' text) :=
  ⟨fun h => sameResult_of_logJson hfront hfront' hload h text,
    fun h hquiet hjson => sameResult_of_verbose hfront hfront' hload h hquiet hjson text,
    fun h hverbose => runInline_eq_of_parallel hfront hfront' hload h hverbose text⟩

/-- One option more or another one, after one for bare positions. -/
theorem results_reserved_of_quiet :
    let env : Surroundings := { host := {}, clock := .every 1, stamp := "" }
    let text := "5 5\\n1 2 N\\nLMLMLMLMM\\n3 3 E\\nMMMM"
    (runInline env ["-q"] text).SameResult (runInline env ["-q", "--log-json"] text) ∧
      (runInline env ["-q"] text).SameResult (runInline env ["-q", "-v"] text) ∧
      runInline env ["-q", "--sequential"] text = runInline env ["-q", "--parallel"] text := by
  intro env text
  have hquiet : Uses ["-q"] [⟨.quiet, ""⟩] := by decide +kernel
  have hnone : Uses [] [] := rfl
  have hlog : Uses ["--log-json"] [⟨.logJson, ""⟩] := by decide +kernel
  have hverbose : Uses ["-v"] [⟨.verbose, ""⟩] := by decide +kernel
  have hsequential : Uses ["--sequential"] [⟨.sequential, ""⟩] := by decide +kernel
  have hparallel : Uses ["--parallel"] [⟨.parallel, ""⟩] := by decide +kernel
  have hload : Settings.load env.host none none (flagsOf [⟨.quiet, ""⟩]) =
      .ok { quiet := true } := by decide +kernel
  have hload' : Settings.load env.host none none (flagsOf [⟨.quiet, ""⟩, ⟨.sequential, ""⟩]) =
      .ok { quiet := true, parallel := some false } := by decide +kernel
  obtain ⟨-, hfront, hexchanged⟩ :=
    exchanges_of_arguments hquiet hnone hlog hnone (by decide)
  obtain ⟨-, hfront', hexchanged'⟩ :=
    exchanges_of_arguments hquiet hnone hverbose hnone (by decide)
  obtain ⟨hold, hnew, hchosen⟩ :=
    exchanges_of_arguments hquiet hsequential hparallel hnone (by decide)
  exact ⟨(results_reserved hquiet hfront hload text).1 hexchanged,
    (results_reserved hquiet hfront' hload text).2.1 hexchanged' rfl rfl,
    (results_reserved hold hnew hload' text).2.2 hchosen rfl⟩

end Plateau.Cli

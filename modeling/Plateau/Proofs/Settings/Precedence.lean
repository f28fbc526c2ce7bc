import Plateau.Cli.App
import Plateau.Proofs.Data.Fields
import Plateau.Proofs.Reading

namespace Plateau

namespace Check

variable {α β : Type}

theorem map_eq_valid_iff {f : α → β} {c : Check α} {b : β} :
    f <$> c = valid b ↔ ∃ a, c = valid a ∧ f a = b := by
  cases c with
  | valid a => simp
  | invalid fs =>
    constructor
    · intro h
      contradiction
    · rintro ⟨a, h, -⟩
      contradiction

theorem seq_eq_valid_iff {c : Check (α → β)} {d : Check α} {b : β} :
    c <*> d = valid b ↔ ∃ f a, c = valid f ∧ d = valid a ∧ f a = b := by
  cases c with
  | valid f => simp [map_eq_valid_iff]
  | invalid fs =>
    constructor
    · intro h
      cases d <;> contradiction
    · rintro ⟨f, a, h, -⟩
      contradiction

theorem toExcept_eq_ok_iff {c : Check α} {a : α} : c.toExcept = .ok a ↔ c = valid a := by
  cases c <;> simp [toExcept]

theorem within_eq_valid_iff {step : String} {c : Check α} {a : α} :
    within step c = valid a ↔ c = valid a := by
  cases c <;> simp [within]

/-- A checked value is what the check makes of what was found, or the default if nothing was. -/
def Reads (check : Value → Check α) (default : α) (found : Option Value) (a : α) : Prop :=
  match found with
  | none => a = default
  | some v => check v = valid a

theorem defaulted_eq_valid_iff {name : String} {default : α} {check : Value → Check α}
    {fs : Fields} {a : α} :
    defaulted name default check fs = valid a ↔ Reads check default (fs.get? name) a := by
  unfold defaulted Reads
  cases fs.get? name with
  | none => simp [eq_comm]
  | some v => exact within_eq_valid_iff

end Check

open Check (Reads seq_eq_valid_iff map_eq_valid_iff defaulted_eq_valid_iff)

namespace Environment

/-- The variable of a key.  Case does not matter in its name, and the last of that name counts. -/
def assigned? (env : List (String × String)) (key : String) : Option String :=
  (env.reverse.find? fun v => Text.lower v.1 == stem ++ key).map (·.2)

theorem get?_lowered (env : List (String × String)) (key : String) :
    (lowered env).get? (stem ++ key) = (assigned? env key).map .text := by
  rw [lowered, Fields.get?_ofPairs, ← List.map_reverse, List.find?_map, assigned?]
  simp only [Option.map_map]
  rfl

end Environment

namespace Settings

open Environment (stem assigned? plainKeys sections lowered)

theorem keys_environmentSections {env : Fields} {known : List (String × List String)} {fs : Fields}
    (h : environmentSections env known = .ok fs) : fs.keys.Sublist (known.map (·.1)) := by
  induction known generalizing fs with
  | nil =>
    obtain rfl := Except.ok.inj h
    exact List.Sublist.refl _
  | cons section' known ih =>
    obtain ⟨name, names⟩ := section'
    rw [environmentSections] at h
    split at h
    · contradiction
    · exact (ih h).cons name
    · rename_i v hv
      obtain ⟨rest, hrest, hfs⟩ := bind_eq_ok_iff.1 h
      obtain rfl := Except.ok.inj hfs
      exact (ih hrest).cons_cons name

theorem environmentFields_eq_ok {env : List (String × String)} {fs : Fields}
    (h : environmentFields env = .ok fs) :
    ∃ inner, environmentSections (lowered env) sections = .ok inner ∧
      fs = (plainKeys.filterMap fun key => ((lowered env).get? (stem ++ key)).map (key, ·)) ++
        inner := by
  obtain ⟨inner, hinner, hfs⟩ := bind_eq_ok_iff.1 h
  exact ⟨inner, hinner, (Except.ok.inj hfs).symm⟩

theorem nodup_environmentFields {env : List (String × String)} {fs : Fields}
    (h : environmentFields env = .ok fs) : fs.keys.Nodup := by
  obtain ⟨inner, hinner, rfl⟩ := environmentFields_eq_ok h
  have hplain := Fields.keys_filterMap plainKeys fun key => (lowered env).get? (stem ++ key)
  have hall : (plainKeys ++ sections.map (·.1)).Nodup := by decide
  rw [Fields.keys, List.map_append]
  exact hall.sublist (hplain.append (keys_environmentSections hinner))

theorem get?_environmentFields {env : List (String × String)} {fs : Fields}
    (h : environmentFields env = .ok fs) {key : String} (hkey : key ∈ plainKeys) :
    fs.get? key = (assigned? env key).map .text := by
  obtain ⟨inner, hinner, rfl⟩ := environmentFields_eq_ok h
  have hapart : ∀ k ∈ plainKeys, k ∉ sections.map (·.1) := by decide
  have hnot : key ∉ inner.keys := by
    intro hmem
    exact hapart key hkey ((keys_environmentSections hinner).subset hmem)
  rw [Fields.get?_append, Fields.get?_filterMap, if_pos hkey, Fields.get?_eq_none hnot,
    Option.or_none, Environment.get?_lowered]

/-- What the fields say when they are checked, key by key; what they leave out has its default. -/
structure Checked (source : Option Path) (fs : Fields) (s : Settings) : Prop where
  source : s.source = source
  json : Reads Check.bool false (fs.get? "json_output") s.json
  quiet : Reads Check.bool false (fs.get? "quiet") s.quiet
  verbose : Reads Check.bool false (fs.get? "verbose") s.verbose
  logJson : Reads Check.bool false (fs.get? "log_json") s.logJson
  parallel : Reads (Check.optional Check.bool) none (fs.get? "parallel") s.parallel
  runner : Reads (RunnerConfig.ofValue (.instanceOf "RunnerConfig")) {} (fs.get? "runner") s.runner
  output : Reads (OutputConfig.ofValue (.instanceOf "OutputConfig")) {} (fs.get? "output") s.output
  known : ∀ key ∈ fs.keys, isKnown key = true

theorem checkKeys_eq_valid_iff {fs : Fields} :
    checkKeys fs = .valid () ↔ ∀ key ∈ fs.keys, isKnown key = true := by
  induction fs with
  | nil => simp [checkKeys, Fields.keys]
  | cons kv fs ih =>
    have hcons : (∀ key ∈ Fields.keys (kv :: fs), isKnown key = true) ↔
        isKnown kv.1 = true ∧ ∀ key ∈ Fields.keys fs, isKnown key = true := List.forall_mem_cons
    rw [checkKeys, seq_eq_valid_iff, hcons, ← ih]
    cases isKnown kv.1 with
    | false => simp [map_eq_valid_iff, Check.fault, Check.within]
    | true =>
      constructor
      · rintro ⟨_, _, -, h, -⟩
        exact ⟨rfl, h⟩
      · rintro ⟨-, h⟩
        exact ⟨_, (), rfl, h, rfl⟩

theorem ofFields_eq_valid_iff {source : Option Path} {fs : Fields} {s : Settings} :
    ofFields source fs = .valid s ↔ Checked source fs s := by
  simp only [ofFields, seq_eq_valid_iff, map_eq_valid_iff, defaulted_eq_valid_iff]
  constructor
  · rintro ⟨_, _, ⟨_, ⟨_, output, ⟨_, runner, ⟨_, parallel, ⟨_, logJson, ⟨_, verbose, ⟨_, quiet,
      ⟨json, hjson, rfl⟩, hquiet, rfl⟩, hverbose, rfl⟩, hlogJson, rfl⟩, hparallel, rfl⟩, hrunner,
      rfl⟩, houtput, rfl⟩, rfl⟩, hkeys, rfl⟩
    exact ⟨rfl, hjson, hquiet, hverbose, hlogJson, hparallel, hrunner, houtput,
      checkKeys_eq_valid_iff.1 hkeys⟩
  · rintro ⟨rfl, hjson, hquiet, hverbose, hlogJson, hparallel, hrunner, houtput, hknown⟩
    exact ⟨_, _, ⟨s, ⟨_, _, ⟨_, _, ⟨_, _, ⟨_, _, ⟨_, _, ⟨_, _, ⟨_, hjson, rfl⟩, hquiet, rfl⟩,
      hverbose, rfl⟩, hlogJson, rfl⟩, hparallel, rfl⟩, hrunner, rfl⟩, houtput, rfl⟩, rfl⟩,
      checkKeys_eq_valid_iff.2 hknown, rfl⟩

/-- Settings are loaded if the file and the environment can be read and all fields are in order. -/
theorem load_eq_ok_iff {h : Host} {explicit : Option String} {start : Option Path} {flags : Fields}
    {s : Settings} :
    load h explicit start flags = .ok s ↔
      ∃ source file environment, configuration h explicit start = .ok (source, file) ∧
        environmentFields h.env = .ok environment ∧
        Checked source (Fields.overlay file
          (Fields.overlay environment (flags.filter fun (_, v) => !v.isNull))) s := by
  simp only [load, bind_eq_ok_iff, mapError_eq_ok_iff, Check.toExcept_eq_ok_iff,
    ofFields_eq_valid_iff, exists_and_left, Prod.exists]

end Settings

namespace Cli

open Environment (assigned? plainKeys)

/-- The options of the program that are given or not, and say nothing else. -/
inductive Switch where
  | json
  | quiet
  | verbose
  | logJson
  deriving DecidableEq, Repr

namespace Switch

def tag : Switch → RootOption
  | json => .json
  | quiet => .quiet
  | verbose => .verbose
  | logJson => .logJson

def key : Switch → String
  | json => "json_output"
  | quiet => "quiet"
  | verbose => "verbose"
  | logJson => "log_json"

def value (s : Settings) : Switch → Bool
  | json => s.json
  | quiet => s.quiet
  | verbose => s.verbose
  | logJson => s.logJson

def given (uses : List (Use RootOption)) (w : Switch) : Bool := uses.any (·.tag == w.tag)

end Switch

/-- What the last of the options says that choose between workers and one after the other. -/
def parallelChoice (uses : List (Use RootOption)) : Option Bool :=
  ((uses.filter fun u => u.tag == .parallel || u.tag == .sequential).getLast?).map
    (·.tag == .parallel)

/-- The value that counts for a key: what the command line says, else the variable, else the
file. -/
def preferred (said : Option Bool) (env : List (String × String)) (file : Fields) (key : String) :
    Option Value :=
  (said.map .bool).or (((assigned? env key).map .text).or (file.get? key))

def saidFlags (uses : List (Use RootOption)) : Fields :=
  [("json_output", .bool (Switch.json.given uses)), ("quiet", .bool (Switch.quiet.given uses)),
    ("verbose", .bool (Switch.verbose.given uses)),
    ("log_json", .bool (Switch.logJson.given uses))] ++
  ((parallelChoice uses).map fun b => ("parallel", Value.bool b)).toList

theorem filter_flagsOf (uses : List (Use RootOption)) :
    (flagsOf uses).filter (fun (_, v) => !v.isNull) = saidFlags uses := by
  unfold flagsOf saidFlags parallelFlag parallelChoice
  cases (uses.filter fun u => u.tag == .parallel || u.tag == .sequential).getLast? <;> rfl

theorem nodup_saidFlags (uses : List (Use RootOption)) : (saidFlags uses).keys.Nodup := by
  unfold saidFlags
  cases parallelChoice uses with
  | none => exact (by decide : ["json_output", "quiet", "verbose", "log_json"].Nodup)
  | some b => exact (by decide : ["json_output", "quiet", "verbose", "log_json", "parallel"].Nodup)

theorem get?_saidFlags_switch (uses : List (Use RootOption)) (w : Switch) :
    (saidFlags uses).get? w.key = some (.bool (w.given uses)) := by
  cases w <;> rfl

theorem get?_saidFlags_parallel (uses : List (Use RootOption)) :
    (saidFlags uses).get? "parallel" = (parallelChoice uses).map .bool := by
  unfold saidFlags
  cases parallelChoice uses <;> rfl

theorem get?_sources {env : List (String × String)} {environment : Fields}
    (henv : Settings.environmentFields env = .ok environment) {said : Option Bool} {flags : Fields}
    (hnodup : flags.keys.Nodup) {key : String} (hkey : key ∈ plainKeys)
    (hsaid : flags.get? key = said.map .bool) (file : Fields) :
    (Fields.overlay file (Fields.overlay environment flags)).get? key =
      preferred said env file key := by
  have hflags : ∀ inner, flags.get? key ≠ some (.record inner) := by
    intro inner
    rw [hsaid]
    cases said <;> simp
  have hupper : (Fields.overlay environment flags).get? key =
      (said.map .bool).or ((assigned? env key).map .text) := by
    rw [Fields.get?_overlay hnodup hflags, hsaid, Settings.get?_environmentFields henv hkey]
  have hplain : ∀ inner, (Fields.overlay environment flags).get? key ≠ some (.record inner) := by
    intro inner
    rw [hupper]
    cases said <;> cases assigned? env key <;> simp
  rw [Fields.get?_overlay _ hplain, hupper, preferred, Option.or_assoc]
  exact Fields.nodup_keys_overlay (Settings.nodup_environmentFields henv) flags

theorem get?_sources_switch {env : List (String × String)} {environment : Fields}
    (henv : Settings.environmentFields env = .ok environment) (uses : List (Use RootOption))
    (w : Switch) (file : Fields) :
    (Fields.overlay file (Fields.overlay environment (saidFlags uses))).get? w.key =
      preferred (some (w.given uses)) env file w.key := by
  have hsaid : (saidFlags uses).get? w.key = (some (w.given uses)).map .bool :=
    get?_saidFlags_switch uses w
  exact get?_sources henv (nodup_saidFlags uses) (by cases w <;> decide) hsaid file

theorem value_of_load {h : Host} {explicit : Option String} {start : Option Path}
    {uses : List (Use RootOption)} {s : Settings}
    (hload : Settings.load h explicit start (flagsOf uses) = .ok s) (w : Switch) :
    w.value s = w.given uses := by
  obtain ⟨_, file, environment, -, henv, hchecked⟩ := Settings.load_eq_ok_iff.1 hload
  rw [filter_flagsOf] at hchecked
  have hreads : Reads Check.bool false
      ((Fields.overlay file (Fields.overlay environment (saidFlags uses))).get? w.key)
      (w.value s) := by
    cases w with
    | json => exact hchecked.json
    | quiet => exact hchecked.quiet
    | verbose => exact hchecked.verbose
    | logJson => exact hchecked.logJson
  rw [get?_sources_switch henv uses w file] at hreads
  exact (Check.valid.inj hreads).symm

theorem parallel_of_load {h : Host} {explicit : Option String} {start : Option Path}
    {uses : List (Use RootOption)} {s : Settings} {source : Option Path} {file : Fields}
    (hload : Settings.load h explicit start (flagsOf uses) = .ok s)
    (hfile : Settings.configuration h explicit start = .ok (source, file)) :
    Reads (Check.optional Check.bool) none (preferred (parallelChoice uses) h.env file "parallel")
      s.parallel := by
  obtain ⟨source', file', environment, hfile', henv, hchecked⟩ := Settings.load_eq_ok_iff.1 hload
  obtain ⟨rfl, rfl⟩ := Prod.mk.inj (Except.ok.inj (hfile.symm.trans hfile'))
  rw [filter_flagsOf] at hchecked
  have hparallel := hchecked.parallel
  rwa [get?_sources henv (nodup_saidFlags uses) (by decide) (get?_saidFlags_parallel uses) file]
    at hparallel

/-- The order of the sources holds for a switch that is given, and else only if what lies below the
command line says no as well. -/
theorem reads_switch_iff (said : Bool) (env : List (String × String)) (file : Fields)
    (key : String) :
    Reads Check.bool false (preferred (if said then some true else none) env file key) said ↔
      said = true ∨ Reads Check.bool false (preferred none env file key) false := by
  cases said with
  | true =>
    constructor
    · intro h
      exact .inl rfl
    · intro h
      exact rfl
  | false => simp

/-- The settings that a call works with.  The choice between workers and one after the other follows
the sources in their order.  A switch is on exactly if it is given, so that it follows them only if
it is given or if the variable, the file and the default come to no. -/
theorem settings_of_call {env : Surroundings} {arguments others : List String}
    {uses : List (Use RootOption)}
    (hscan : scan false root.options none arguments = .ok (uses, others))
    (hself : firstOf RootOption.answersItself uses = none) {s : Settings}
    (hload : Settings.load env.host (lastValue? .config uses) none (flagsOf uses) = .ok s) :
    (∀ name rest action, others = name :: rest → Action.ofName? name = some action →
      call env arguments = action.call env s rest) ∧
    ∃ source file,
      Settings.configuration env.host (lastValue? .config uses) none = .ok (source, file) ∧
      Reads (Check.optional Check.bool) none
        (preferred (parallelChoice uses) env.host.env file "parallel") s.parallel ∧
      ∀ w : Switch, w.value s = w.given uses ∧
        (Reads Check.bool false
            (preferred (if w.given uses then some true else none) env.host.env file w.key)
            (w.value s) ↔
          w.given uses = true ∨
            Reads Check.bool false (preferred none env.host.env file w.key) false) := by
  obtain ⟨source, file, environment, hfile, -, -⟩ := Settings.load_eq_ok_iff.1 hload
  refine ⟨?_, source, file, hfile, parallel_of_load hload hfile, ?_⟩
  · rintro name rest action rfl haction
    simp only [call, hscan, hself, haction, withSettings, hload]
  · intro w
    have hvalue := value_of_load hload w
    refine ⟨hvalue, ?_⟩
    rw [hvalue]
    exact reads_switch_iff _ _ _ _

/-- A variable against workers, and one against quiet output, which is not asked for either. -/
theorem settings_of_call_verbose :
    ∃ s : Settings,
      Settings.load { env := [("ROVERCTL_PARALLEL", "no"), ("ROVERCTL_QUIET", "0")] } none none
        (flagsOf [⟨.verbose, ""⟩]) = .ok s ∧
      scan false root.options none ["-v", "demo"] = .ok ([⟨.verbose, ""⟩], ["demo"]) ∧
      firstOf RootOption.answersItself [⟨RootOption.verbose, ""⟩] = none ∧
      s.verbose = true ∧ s.quiet = false ∧ s.parallel = some false := by
  let host : Host := { env := [("ROVERCTL_PARALLEL", "no"), ("ROVERCTL_QUIET", "0")] }
  let env : Surroundings := { host, clock := .every 1, stamp := "" }
  have hload : Settings.load host none none (flagsOf [⟨.verbose, ""⟩]) =
      .ok { verbose := true, parallel := some false } := by decide +kernel
  have hscan : scan false root.options none ["-v", "demo"] = .ok ([⟨.verbose, ""⟩], ["demo"]) := by
    decide +kernel
  obtain ⟨-, source, file, -, -, hswitch⟩ := @settings_of_call env _ _ _ hscan rfl _ hload
  exact ⟨_, hload, hscan, rfl, (hswitch .verbose).1, (hswitch .quiet).1, rfl⟩

/-- A variable that asks for quiet output is passed over. -/
theorem quiet_variable_passed_over :
    ∃ s file, scan false root.options none ["demo"] = .ok ([], ["demo"]) ∧
      Settings.load { env := [("ROVERCTL_QUIET", "1")] } none none (flagsOf []) = .ok s ∧
      Settings.configuration { env := [("ROVERCTL_QUIET", "1")] } none none =
        .ok (none, file) ∧
      ¬Reads Check.bool false (preferred none [("ROVERCTL_QUIET", "1")] file "quiet") s.quiet := by
  have hload : Settings.load { env := [("ROVERCTL_QUIET", "1")] } none none (flagsOf []) =
      .ok {} := by decide +kernel
  have hlocate : Discovery.locate none none { env := [("ROVERCTL_QUIET", "1")] } = .ok none := by
    decide +kernel
  have hfile : Settings.configuration { env := [("ROVERCTL_QUIET", "1")] } none none =
      .ok (none, []) := by
    rw [Settings.configuration, hlocate]
    rfl
  have hassigned : assigned? [("ROVERCTL_QUIET", "1")] "quiet" = some "1" := by decide +kernel
  refine ⟨_, [], rfl, hload, hfile, ?_⟩
  rw [preferred, hassigned]
  intro h
  have htrue : Check.bool (.text "1") = .valid true := rfl
  have hfalse : Check.bool (.text "1") = .valid false := h
  rw [htrue] at hfalse
  cases hfalse

end Cli

end Plateau

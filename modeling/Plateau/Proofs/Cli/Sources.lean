import Plateau.Proofs.Cli.Results
import Plateau.Proofs.Text.Newline
import Plateau.Proofs.Text.Utf8

namespace Plateau.Cli

open Text (Unspelled escapeNewlines spellNewlines unifyNewlines)
open Text.Utf8 (octets)

def spelled (text : String) : String := String.ofList (escapeNewlines text.toList)

theorem text_inline {text : String} (h : Unspelled text.toList) :
    (Source.inline (spelled text)).text = .ok text.toList := by
  have hspell : spellNewlines (spelled text).toList = text.toList := by
    rw [spelled, String.toList_ofList, Text.spellNewlines_escapeNewlines h]
  rw [Source.text, hspell]

theorem text_stream (name : String) {text : String} (h : '\r' ∉ text.toList) :
    (Source.stream name (octets text)).text = .ok text.toList := by
  rw [Source.text, Text.Utf8.decode_octets]
  exact congrArg Except.ok (Text.unifyNewlines_eq_self h)

variable {env : Surroundings} {s : Settings}

/-- A run that gives no details does not tell where its instructions come from. -/
theorem runSource_eq (hverbose : s.verbose = false)
    (hworkers : ∀ n ∈ s.runnerConfig.maxWorkers, 1 ≤ n) {source source' : Source}
    {text : List Char} (h : source.text = .ok text) (h' : source'.text = .ok text) :
    runSource env s source = runSource env s source' := by
  obtain ⟨o, ho⟩ := Instructions.exists_run text
  rw [runSource, runSource, h, h']
  dsimp only
  rw [perform_run_of_silent hverbose hworkers ho, perform_run_of_silent hverbose hworkers ho]

theorem withSettings_congr {uses : List (Use RootOption)} {go go' : Settings → Reply}
    (h : ∀ s, Settings.load env.host (lastValue? .config uses) none (flagsOf uses) = .ok s →
      go s = go' s) : withSettings env uses go = withSettings env uses go' := by
  unfold withSettings
  cases hload : Settings.load env.host (lastValue? .config uses) none (flagsOf uses) with
  | ok s => exact h s hload
  | error fault => cases fault <;> rfl

def runNamed (env : Surroundings) (front : List String) (path : String) : Reply :=
  call env (front ++ ["run", path])

theorem runNamed_eq_runInline {front : List String} {uses : List (Use RootOption)}
    (hfront : Uses front uses) (hverbose : Switch.verbose.given uses = false) {text : String}
    (hreturn : '\r' ∉ text.toList) (hspelled : Unspelled text.toList) {path : String}
    (hpath : looksLikeOption path.toList = false) (hnul : '\x00' ∉ path.toList)
    {name : String} (hopen : openSource env path = .ok (.stream name (octets text))) :
    runNamed env front path = runInline env front (spelled text) := by
  rw [runNamed, runInline]
  refine (call_of_uses env hfront .run [path]).trans
    (Eq.trans ?_ (call_of_uses env hfront .run ["-i", spelled text]).symm)
  cases firstOf RootOption.answersItself uses with
  | some tag => rfl
  | none =>
    apply withSettings_congr
    intro s hload
    rw [call_operand env s hpath hnul hopen, call_inline]
    exact runSource_eq ((value_of_load hload .verbose).trans hverbose)
      (Settings.workers_of_load hload) (text_stream name hreturn) (text_inline hspelled)

/-- Without details a call replies the same to a text that is given inline, on the standard input
and in a file, if nothing in it is a line end in one of them and not in the others. -/
theorem sources_agree {front : List String} {uses : List (Use RootOption)}
    (hfront : Uses front uses) (hverbose : Switch.verbose.given uses = false) {text : String}
    (hreturn : '\r' ∉ text.toList) (hspelled : Unspelled text.toList)
    (hinput : env.input = octets text) {path : String}
    (hpath : looksLikeOption path.toList = false) (hother : path ≠ inputPath)
    (hnul : '\x00' ∉ path.toList) (hfile : env.host.openFile path = .ok (octets text)) :
    runNamed env front inputPath = runInline env front (spelled text) ∧
      runNamed env front path = runInline env front (spelled text) := by
  have hopenInput : openSource env inputPath = .ok (.stream "<stdin>" (octets text)) := by
    rw [openSource, hinput]
    exact if_pos (beq_self_eq_true _)
  have hopenFile : openSource env path = .ok (.stream path (octets text)) := by
    rw [openSource, hfile]
    exact if_neg (by simpa using hother)
  exact ⟨runNamed_eq_runInline hfront hverbose hreturn hspelled (by decide) (by decide) hopenInput,
    runNamed_eq_runInline hfront hverbose hreturn hspelled hpath hnul hopenFile⟩

/-- A file and the standard input with two rovers, one of which leaves its surface. -/
theorem sources_agree_of_two :
    let text := "5 5\n1 2 N\nLMLMLMLMM\n3 3 E\nMMMM\n"
    let env : Surroundings :=
      { host := { files := FileTree.empty.addFile ["plan.txt"] (octets text) }
        input := octets text
        clock := .every 1
        stamp := "" }
    runNamed env ["-q", "--parallel"] "-" = runInline env ["-q", "--parallel"] (spelled text) ∧
      runNamed env ["-q", "--parallel"] "plan.txt" =
        runInline env ["-q", "--parallel"] (spelled text) := by
  intro text env
  have hfront : Uses ["-q", "--parallel"] [⟨.quiet, ""⟩, ⟨.parallel, ""⟩] := by decide +kernel
  have hfile : env.host.openFile "plan.txt" = .ok (octets text) := by decide +kernel
  exact sources_agree hfront rfl (by decide) (by decide) rfl (by decide) (by decide) (by decide)
    hfile

end Plateau.Cli

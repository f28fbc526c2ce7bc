import Plateau.Cli.App
import Plateau.Proofs.Reading

namespace Plateau.Cli

variable {α : Type} {options : List (Opt α)} {owed : Option (α × String)} {front : List String}
  {uses : List (Use α)}

theorem scan_append_name (h : scan false options owed front = .ok (uses, [])) {name : String}
    (hname : looksLikeOption name.toList = false) (rest : List String) :
    scan false options owed (front ++ name :: rest) = .ok (uses, name :: rest) := by
  have hdashes : name ≠ "--" := by
    rintro rfl
    contradiction
  induction front generalizing owed uses with
  | nil =>
    cases owed with
    | some o => contradiction
    | none =>
      obtain rfl : [] = uses := (Prod.mk.inj (Except.ok.inj h)).1
      simp [scan, hdashes, hname]
  | cons a front ih =>
    rw [List.cons_append]
    cases owed with
    | some o =>
      rw [scan] at h ⊢
      obtain ⟨⟨others, _⟩, hscan, h⟩ := bind_eq_ok_iff.1 h
      obtain ⟨rfl, rfl⟩ := Prod.mk.inj (Except.ok.inj h)
      exact bind_eq_ok_iff.2 ⟨_, ih hscan, rfl⟩
    | none =>
      rw [scan] at h ⊢
      split at h
      · obtain ⟨rfl, rfl⟩ := Prod.mk.inj (Except.ok.inj h)
        rw [if_pos ‹_›]
        rfl
      · rw [if_neg ‹_›]
        split at h
        · obtain ⟨reading, hreading, h⟩ := bind_eq_ok_iff.1 h
          obtain ⟨⟨others, _⟩, hscan, h⟩ := bind_eq_ok_iff.1 h
          obtain ⟨rfl, rfl⟩ := Prod.mk.inj (Except.ok.inj h)
          rw [if_pos ‹_›]
          exact bind_eq_ok_iff.2 ⟨reading, hreading, bind_eq_ok_iff.2 ⟨_, ih hscan, rfl⟩⟩
        · exact absurd (Prod.mk.inj (Except.ok.inj h)).2 (List.cons_ne_nil a front)

theorem scan_append (h : scan false options owed front = .ok (uses, [])) (hdashes : "--" ∉ front)
    {more : List String} {later : List (Use α)}
    (hmore : scan false options none more = .ok (later, [])) :
    scan false options owed (front ++ more) = .ok (uses ++ later, []) := by
  induction front generalizing owed uses with
  | nil =>
    cases owed with
    | some o => contradiction
    | none =>
      obtain rfl : [] = uses := (Prod.mk.inj (Except.ok.inj h)).1
      exact hmore
  | cons a front ih =>
    obtain ⟨ha, hfront⟩ : "--" ≠ a ∧ "--" ∉ front := by simpa using hdashes
    rw [List.cons_append]
    cases owed with
    | some o =>
      rw [scan] at h ⊢
      obtain ⟨⟨others, _⟩, hscan, h⟩ := bind_eq_ok_iff.1 h
      obtain ⟨rfl, rfl⟩ := Prod.mk.inj (Except.ok.inj h)
      exact bind_eq_ok_iff.2 ⟨_, ih hscan hfront, rfl⟩
    | none =>
      have hnot : ¬(a == "--") = true := by simpa using Ne.symm ha
      rw [scan, if_neg hnot] at h ⊢
      split at h
      · obtain ⟨reading, hreading, h⟩ := bind_eq_ok_iff.1 h
        obtain ⟨⟨others, _⟩, hscan, h⟩ := bind_eq_ok_iff.1 h
        obtain ⟨rfl, rfl⟩ := Prod.mk.inj (Except.ok.inj h)
        rw [if_pos ‹_›]
        refine bind_eq_ok_iff.2 ⟨reading, hreading, bind_eq_ok_iff.2 ⟨_, ih hscan hfront, ?_⟩⟩
        rw [List.append_assoc]
        rfl
      · exact absurd (Prod.mk.inj (Except.ok.inj h)).2 (List.cons_ne_nil a front)

/-- The arguments hold options of the program and nothing else. -/
def Uses (front : List String) (uses : List (Use RootOption)) : Prop :=
  scan false root.options none front = .ok (uses, [])

instance (front : List String) (uses : List (Use RootOption)) : Decidable (Uses front uses) :=
  inferInstanceAs (Decidable (_ = _))

theorem Uses.append {front more : List String} {uses later : List (Use RootOption)}
    (h : Uses front uses) (hdashes : "--" ∉ front) (hmore : Uses more later) :
    Uses (front ++ more) (uses ++ later) :=
  scan_append h hdashes hmore

theorem ofName?_name (a : Action) : Action.ofName? a.name = some a := by
  cases a <;> rfl

theorem call_of_uses (env : Surroundings) {front : List String} {uses : List (Use RootOption)}
    (h : Uses front uses) (a : Action) (rest : List String) :
    call env (front ++ a.name :: rest) =
      match firstOf RootOption.answersItself uses with
      | some tag => answerTo tag
      | none => withSettings env uses fun s => a.call env s rest := by
  have hname : looksLikeOption a.name.toList = false := by cases a <;> decide
  rw [call, scan_append_name h hname rest]
  dsimp only
  cases firstOf RootOption.answersItself uses with
  | some tag => rfl
  | none => simp only [ofName?_name]

variable (env : Surroundings) (s : Settings)

theorem readOption_inline : readOption Action.run.command.options "-i".toList =
    .ok ⟨[], some (.instructions, "-i")⟩ := by
  have hsplit : splitValue "-i".toList = (['-', 'i'], none) := by decide
  have hname : String.ofList ['-', 'i'] = "-i" := by decide
  have hshort : ("-i".length == 2) = true := by decide
  have hlong : Opt.isLong "-i" = false := by decide +kernel
  have hdrop : "-i".toList.drop 1 = ['i'] := by decide
  have hfind : Opt.find? Action.run.command.options "-i" = some (.instructions, true) := by decide
  simp only [readOption, hsplit, hname, hshort, hlong, hdrop, readCluster, hfind, if_true,
    Bool.false_eq_true, if_false, List.isEmpty_nil]

theorem scan_inline (text : String) :
    scan true Action.run.command.options none ["-i", text] =
      .ok ([⟨.instructions, text⟩], []) := by
  rw [scan]
  dsimp only
  rw [if_neg (by decide), if_pos (by decide), readOption_inline]
  rfl

theorem call_inline (text : String) :
    Action.run.call env s ["-i", text] = runSource env s (.inline text) := by
  rw [Action.call, scan_inline]
  rfl

theorem scan_operand {path : String} (h : looksLikeOption path.toList = false) :
    scan true Action.run.command.options none [path] = .ok ([], [path]) := by
  have hdashes : path ≠ "--" := by
    rintro rfl
    contradiction
  simp [scan, hdashes, h, pure, Except.pure, bind, Except.bind]

theorem call_operand {path : String} (h : looksLikeOption path.toList = false)
    (hnul : '\x00' ∉ path.toList) {source : Source}
    (hopen : openSource env path = .ok source) :
    Action.run.call env s [path] = runSource env s source := by
  rw [Action.call, scan_operand h]
  have hfirst : ([path].take Action.run.arity).head? = some path := rfl
  have hextra : [path].drop Action.run.arity = [] := rfl
  dsimp only [firstOf, List.find?_nil, Option.map_none, lastValue?, List.filter_nil,
    List.getLast?_nil]
  rw [Action.start, hfirst, hextra]
  dsimp only
  rw [if_neg (by simp [hnul]), hopen]
  rfl

end Plateau.Cli

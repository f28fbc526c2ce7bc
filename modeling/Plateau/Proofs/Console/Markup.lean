import Mathlib.Data.List.Infix
import Plateau.Console.Markup
import Plateau.Proofs.Text.Cells

namespace Plateau.Console

open Text (Shown)

/-- A bracket, what may open or close a style, and the next bracket, which ends it. -/
def IsTag (t : List Char) : Prop :=
  ∃ c body, t = '[' :: c :: (body ++ [']']) ∧
    (('a' ≤ c ∧ c ≤ 'z') ∨ c = '#' ∨ c = '/' ∨ c = '@') ∧ '[' ∉ body ∧ ']' ∉ body

def Tagless (s : List Char) : Prop := ∀ t, IsTag t → ¬t <:+: s

/-- Text that means itself as markup, whatever pictures a device has for names between colons. -/
structure Literal (s : List Char) : Prop where
  tagless : Tagless s
  unescaped : ¬['\\', '['] <:+: s
  no_name : ∀ name, (∀ c ∈ name, Text.isBlank c = false) → ¬(':' :: (name ++ [':'])) <:+: s

/-- The first tag would close a style, and there is none that it could close. -/
def ClosesNothing (s : List Char) : Prop :=
  ∃ front body rest, s = front ++ '[' :: '/' :: (body ++ ']' :: rest) ∧ Tagless front ∧
    front.getLast? ≠ some '\\' ∧ '[' ∉ body ∧ ']' ∉ body

theorem Tagless.tail {c : Char} {s : List Char} (h : Tagless (c :: s)) : Tagless s := by
  intro t ht hin
  exact h t ht (hin.trans (List.suffix_cons c s).isInfix)

theorem tagless_of_bracket_not_mem {s : List Char} (h : '[' ∉ s) : Tagless s := by
  rintro t ⟨c, body, rfl, -, -, -⟩ hin
  exact h (hin.subset List.mem_cons_self)

namespace Markup

theorem eq_of_tagBody {s body rest : List Char} (h : tagBody s = some (body, rest)) :
    s = body ++ ']' :: rest ∧ '[' ∉ body ∧ ']' ∉ body := by
  induction s generalizing body with
  | nil => contradiction
  | cons c s ih =>
    rw [tagBody] at h
    by_cases hclose : c = ']'
    · subst hclose
      obtain ⟨rfl, rfl⟩ : [] = body ∧ s = rest := by simpa using h
      simp
    · by_cases hopen : c = '['
      · subst hopen
        simp at h
      · obtain ⟨inner, rest', hinner, heq⟩ : ∃ inner rest', tagBody s = some (inner, rest') ∧
            (c :: inner, rest') = (body, rest) := by
          simpa [hclose, hopen] using h
        obtain ⟨rfl, rfl⟩ := Prod.mk.inj heq
        obtain ⟨rfl, hno, hno'⟩ := ih hinner
        simp [hno, hno', Ne.symm hclose, Ne.symm hopen]

theorem isTag_of_tagAfter {s body rest : List Char} (h : tagAfter s = some (body, rest)) :
    s = body ++ ']' :: rest ∧ IsTag ('[' :: (body ++ [']'])) := by
  cases s with
  | nil => contradiction
  | cons c s =>
    rw [tagAfter] at h
    split at h
    · rename_i hstart
      obtain ⟨⟨inner, rest'⟩, hinner, heq⟩ := Option.map_eq_some_iff.1 h
      obtain ⟨rfl, rfl⟩ := Prod.mk.inj heq
      obtain ⟨rfl, hno, hno'⟩ := eq_of_tagBody hinner
      refine ⟨rfl, c, inner, rfl, ?_, hno, hno'⟩
      simpa [startsTag, or_assoc] using hstart
    · contradiction

theorem tagAfter_of_tagless {s : List Char} (h : Tagless ('[' :: s)) : tagAfter s = none := by
  by_contra hne
  obtain ⟨⟨body, rest⟩, htag⟩ := Option.ne_none_iff_exists'.1 hne
  obtain ⟨rfl, ht⟩ := isTag_of_tagAfter htag
  refine h _ ht ⟨[], rest, ?_⟩
  simp

theorem piecesFrom_slash (position slashes : Nat) (text s : List Char) :
    piecesFrom position text slashes 0 ('\\' :: s) =
      piecesFrom (position + 1) text (slashes + 1) 0 s := by
  rw [piecesFrom]
  rfl

theorem piecesFrom_plain {c : Char} {s : List Char} (hslash : c ≠ '\\')
    (hopen : c = '[' → tagAfter s = none) (position slashes : Nat) (text : List Char) :
    piecesFrom position text slashes 0 (c :: s) =
      piecesFrom (position + 1) (c :: List.replicate slashes '\\' ++ text) 0 0 s := by
  have hnone : (if c == '[' then tagAfter s else none) = none := by
    by_cases h : c = '['
    · simpa [h] using hopen h
    · simp [h]
  have hplain : (c == '\\') = false := by simpa using hslash
  rw [piecesFrom, hplain, hnone]
  rfl

/-- Text without a tag is one piece, backslashes and all. -/
theorem piecesFrom_of_tagless {s : List Char} (h : Tagless s) (position slashes : Nat)
    (text : List Char) :
    piecesFrom position text slashes 0 s =
      pending (s.reverse ++ (List.replicate slashes '\\' ++ text)) := by
  induction s generalizing position slashes text with
  | nil => rfl
  | cons c s ih =>
    by_cases hslash : c = '\\'
    · subst hslash
      rw [piecesFrom_slash, ih h.tail, List.reverse_cons, List.append_assoc, List.replicate_succ]
      rfl
    · have hopen : c = '[' → tagAfter s = none := by
        rintro rfl
        exact tagAfter_of_tagless h
      rw [piecesFrom_plain hslash hopen, ih h.tail, List.reverse_cons, List.append_assoc]
      rfl

theorem tagBody_of_not_mem {body : List Char} (hopen : '[' ∉ body) (hclose : ']' ∉ body)
    (rest : List Char) : tagBody (body ++ ']' :: rest) = some (body, rest) := by
  induction body with
  | nil => simp [tagBody]
  | cons c body ih =>
    rw [List.mem_cons, not_or] at hopen hclose
    rw [List.cons_append, tagBody, ih hopen.2 hclose.2]
    simp [Ne.symm hopen.1, Ne.symm hclose.1]

theorem tagAfter_append_bracket {s : List Char} (h : Tagless ('[' :: s)) (t : List Char) :
    tagAfter (s ++ '[' :: t) = none := by
  by_contra hne
  obtain ⟨⟨body, rest⟩, hbody⟩ := Option.ne_none_iff_exists'.1 hne
  obtain ⟨heq, htag⟩ := isTag_of_tagAfter hbody
  have hplain : '[' ∉ body := by
    obtain ⟨c, inner, hinner, hstart, hno, -⟩ := htag
    obtain rfl : body = c :: inner := List.append_cancel_right (List.cons.inj hinner).2
    rw [List.mem_cons, not_or]
    refine ⟨?_, hno⟩
    rintro rfl
    revert hstart
    decide
  -- The tag ends before the other bracket, so it is part of the text in front.
  have hprefix : body ++ [']'] <+: s := by
    replace heq : s ++ '[' :: t = (body ++ [']']) ++ rest := by simpa using heq
    rcases List.append_eq_append_iff.1 heq with ⟨tail, hwhole, hrest⟩ | ⟨tail, hs, -⟩
    · cases tail with
      | nil => rw [hwhole, List.append_nil]
      | cons c tail =>
        obtain rfl : '[' = c := (List.cons.inj hrest).1
        have hmem : '[' ∈ body ++ [']'] := by simp [hwhole]
        simp [hplain] at hmem
    · exact ⟨tail, hs.symm⟩
  obtain ⟨tail, rfl⟩ := hprefix
  exact h _ htag ⟨[], tail, by simp⟩

theorem piecesFrom_of_tag {front s body rest : List Char} (hfront : Tagless front)
    (htag : tagAfter s = some (body, rest)) (position slashes : Nat) (text : List Char)
    (hescape : (List.replicate slashes '\\' ++ front).getLast? ≠ some '\\') :
    ∃ before position' after, piecesFrom position text slashes 0 (front ++ '[' :: s) =
      pending before ++ .tag position' body :: after := by
  induction front generalizing position slashes text with
  | nil =>
    obtain rfl : slashes = 0 := by
      cases slashes with
      | zero => rfl
      | succ n => simp [List.getLast?_replicate] at hescape
    refine ⟨text, position, piecesFrom (position + 1) [] 0 (body.length + 1) s, ?_⟩
    rw [List.nil_append, piecesFrom]
    simp [htag]
  | cons c front ih =>
    rw [List.cons_append]
    by_cases hslash : c = '\\'
    · subst hslash
      rw [piecesFrom_slash]
      apply ih hfront.tail
      rwa [List.replicate_succ', List.append_assoc, List.singleton_append]
    · have hopen : c = '[' → tagAfter (front ++ '[' :: s) = none := by
        rintro rfl
        exact tagAfter_append_bracket hfront s
      rw [piecesFrom_plain hslash hopen]
      apply ih hfront.tail
      intro hlast
      apply hescape
      rw [List.getLast?_append_of_ne_nil _ (List.cons_ne_nil c front)]
      cases front with
      | nil => contradiction
      | cons d front => simpa [List.getLast?_cons_cons] using hlast

theorem unescape_eq_self {s : List Char} (h : ¬['\\', '['] <:+: s) : unescape s = s := by
  induction s with
  | nil => rfl
  | cons c s ih =>
    have hrest : unescape s = s := ih fun hin => h (hin.trans (List.suffix_cons c s).isInfix)
    rw [unescape.eq_def]
    split
    · contradiction
    · rename_i t heq
      obtain ⟨rfl, rfl⟩ := List.cons.inj heq
      exact absurd ⟨[], t, rfl⟩ h
    · rename_i d t hno heq
      obtain ⟨rfl, rfl⟩ := List.cons.inj heq
      rw [hrest]

theorem variants_unblank :
    variants.all fun v => v.1.toList.all fun c => !Text.isBlank c := by
  decide

theorem eq_of_variantAfter {s rest : List Char} {selector : Char}
    (h : variantAfter s = some (selector, rest)) :
    ∃ inner, s = inner ++ ':' :: rest ∧ ∀ c ∈ inner, Text.isBlank c = false := by
  obtain ⟨⟨name, selector'⟩, hvariant, hmark⟩ := List.exists_of_findSome?_eq_some h
  dsimp only at hmark
  split at hmark
  · rename_i hprefix
    obtain ⟨t, rfl⟩ := List.isPrefixOf_iff_prefix.1 hprefix
    obtain ⟨-, rfl⟩ := Prod.mk.inj (Option.some.inj hmark)
    refine ⟨'-' :: name.toList, by simp, List.forall_mem_cons.2 ⟨by decide, fun c hc => ?_⟩⟩
    simpa using List.all_eq_true.1 (List.all_eq_true.1 variants_unblank _ hvariant) c hc
  · contradiction

theorem eq_of_nameAfter {s name rest : List Char} {variant : Option Char}
    (h : nameAfter s = some (name, variant, rest)) :
    ∃ inner, s = inner ++ ':' :: rest ∧ ∀ c ∈ inner, Text.isBlank c = false := by
  induction s generalizing name with
  | nil => contradiction
  | cons c s ih =>
    rw [nameAfter] at h
    split at h
    · rename_i selector rest' hvariant
      obtain ⟨-, -, rfl⟩ : [] = name ∧ some selector = variant ∧ rest' = rest := by simpa using h
      exact eq_of_variantAfter hvariant
    · split at h
      · rename_i hcolon
        obtain ⟨-, -, rfl⟩ : [] = name ∧ none = variant ∧ s = rest := by simpa using h
        obtain rfl : c = ':' := by simpa using hcolon
        exact ⟨[], rfl, by simp⟩
      · split at h
        · contradiction
        · rename_i hblank
          obtain ⟨⟨name', variant', rest'⟩, hname, heq⟩ := Option.map_eq_some_iff.1 h
          obtain ⟨-, rfl, rfl⟩ : c :: name' = name ∧ variant' = variant ∧ rest' = rest := by
            simpa using heq
          obtain ⟨inner, rfl, hinner⟩ := ih hname
          exact ⟨c :: inner, rfl, List.forall_mem_cons.2 ⟨by simpa using hblank, hinner⟩⟩

theorem pictures_eq_self {device : Device} {s : List Char}
    (h : ∀ name, (∀ c ∈ name, Text.isBlank c = false) → ¬(':' :: (name ++ [':'])) <:+: s) :
    pictures device s = s := by
  rw [pictures]
  induction s with
  | nil => rfl
  | cons c s ih =>
    have hrest : picturesFrom device 0 s = s :=
      ih fun name hname hin => h name hname (hin.trans (List.suffix_cons c s).isInfix)
    have hnone : (if c == ':' then nameAfter s else none) = none := by
      by_contra hne
      obtain ⟨⟨name, variant, rest⟩, hname⟩ := Option.ne_none_iff_exists'.1 hne
      split at hname
      · rename_i hcolon
        obtain rfl : c = ':' := by simpa using hcolon
        obtain ⟨inner, rfl, hinner⟩ := eq_of_nameAfter hname
        exact h inner hinner ⟨[], rest, by simp⟩
      · contradiction
    rw [picturesFrom, hnone]
    simp [hrest]

theorem readPieces_pending (device : Device) (s : List Char) :
    readPieces device 0 [] (pending s) =
      .ok (Styled.clean (pictures device (unescape s.reverse)), []) := by
  cases s with
  | nil => rfl
  | cons c s => simp [pending, readPieces, bind, Except.bind, pure, Except.pure]

theorem exists_closeTag_error (position : Nat) (body : List Char) :
    ∃ e, closeTag position body [] = .error e := by
  unfold closeTag
  dsimp only
  split
  · exact ⟨_, rfl⟩
  · cases normalize (Text.trim (splitTag (body.drop 1)).1) with
    | error e => exact ⟨e, rfl⟩
    | ok name => exact ⟨_, rfl⟩

theorem exists_readPieces_error (device : Device) (before : List Char) (position : Nat)
    (body : List Char) (after : List Piece) :
    ∃ e, readPieces device 0 [] (pending before ++ .tag position ('/' :: body) :: after) =
      .error e := by
  obtain ⟨e, he⟩ := exists_closeTag_error position ('/' :: body)
  have hclose (offset : Nat) :
      readPieces device offset [] (.tag position ('/' :: body) :: after) = .error e := by
    simp [readPieces, he, bind, Except.bind]
  refine ⟨e, ?_⟩
  cases before with
  | nil => exact hclose 0
  | cons c before =>
    have hpending : pending (c :: before) = [.text (c :: before).reverse] := rfl
    rw [hpending, List.singleton_append, readPieces, hclose]
    rfl

end Markup

/-- Without a tag there are no spans, whatever the text is. -/
theorem ofMarkup_of_tagless (device : Device) {s : List Char} (h : Tagless s) :
    Styled.ofMarkup device s =
      .ok ⟨Styled.clean (Markup.pictures device (Markup.unescape s)), []⟩ := by
  rw [Styled.ofMarkup, Markup.pieces, Markup.piecesFrom_of_tagless h, List.replicate_zero,
    List.nil_append, List.append_nil, Markup.readPieces_pending, List.reverse_reverse]
  simp [bind, Except.bind, pure, Except.pure]

theorem ofMarkup_of_closesNothing (device : Device) {s : List Char} (h : ClosesNothing s) :
    ∃ e, Styled.ofMarkup device s = .error e := by
  obtain ⟨front, body, rest, rfl, hfront, hescape, hopen, hclose⟩ := h
  have htag : Markup.tagAfter ('/' :: (body ++ ']' :: rest)) = some ('/' :: body, rest) := by
    rw [Markup.tagAfter, if_pos (by decide), Markup.tagBody_of_not_mem hopen hclose]
    rfl
  obtain ⟨before, position, after, hpieces⟩ :=
    Markup.piecesFrom_of_tag hfront htag 0 0 [] (by simpa using hescape)
  obtain ⟨e, he⟩ := Markup.exists_readPieces_error device before position body after
  refine ⟨e, ?_⟩
  rw [Styled.ofMarkup, Markup.pieces, hpieces, he]
  rfl

theorem clean_eq_self {s : List Char} (h : Shown s) : Styled.clean s = s := by
  apply List.filter_eq_self.2
  intro c hc
  have hle : 32 ≤ c.toNat := Text.le_toNat_of_isPrintable (h c hc)
  have hkept : Styled.isDropped c = false := by
    simp only [Styled.isDropped, Bool.or_eq_false_iff, beq_eq_false_iff_ne]
    omega
  rw [hkept]
  rfl

theorem ofMarkup_of_literal (device : Device) {s : List Char} (hs : Literal s) (h : Shown s) :
    Styled.ofMarkup device s = .ok ⟨s, []⟩ := by
  rw [ofMarkup_of_tagless device hs.tagless, Markup.unescape_eq_self hs.unescaped,
    Markup.pictures_eq_self hs.no_name, clean_eq_self h]

end Plateau.Console

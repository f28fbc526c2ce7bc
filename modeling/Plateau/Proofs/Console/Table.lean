import Plateau.Console.Table
import Plateau.Proofs.Console.Markup
import Plateau.Proofs.Console.Print

namespace Plateau.Console

theorem exists_mapM {ε α β : Type} {f : α → Except ε β} {P : β → Prop} {l : List α}
    (h : ∀ a ∈ l, ∃ b, f a = .ok b ∧ P b) : ∃ bs, l.mapM f = .ok bs ∧ ∀ b ∈ bs, P b := by
  induction l with
  | nil => exact ⟨[], rfl, by simp⟩
  | cons a l ih =>
    obtain ⟨⟨b, hb, hP⟩, hrest⟩ := List.forall_mem_cons.1 h
    obtain ⟨bs, hbs, hall⟩ := ih hrest
    refine ⟨b :: bs, ?_, List.forall_mem_cons.2 ⟨hP, hall⟩⟩
    rw [List.mapM_cons, hb, hbs]
    rfl

theorem mapM_eq_ok {ε α β : Type} {f : α → Except ε β} {g : α → β} {l : List α}
    (h : ∀ a ∈ l, f a = .ok (g a)) : l.mapM f = .ok (l.map g) := by
  induction l with
  | nil => rfl
  | cons a l ih =>
    obtain ⟨ha, hrest⟩ := List.forall_mem_cons.1 h
    rw [List.mapM_cons, ha, ih hrest]
    rfl

/-- Markup that is read and leaves no spans. -/
def Unstyled (device : Device) (s : List Char) : Prop :=
  ∃ u, Styled.ofMarkup device s = .ok u ∧ u.Bare

theorem unstyled_of_tagless (device : Device) {s : List Char} (h : Tagless s) :
    Unstyled device s :=
  ⟨_, ofMarkup_of_tagless device h, rfl⟩

namespace Table

variable {device : Device} {t : Table}

theorem rowFault?_eq_none {cells : List Cell} (h : ∀ c ∈ cells, c.text.Bare) :
    rowFault? cells = none := by
  apply List.findSome?_eq_none_iff.2
  intro c hc
  apply Styled.fault?_eq_none
  unfold cellTexts
  split
  · simp
  · exact (h c hc).wrap _ _ _

theorem bodyFault?_eq_none {rows : List (List Styled)} (h : ∀ row ∈ rows, ∀ u ∈ row, u.Bare)
    {cellsOf : List Styled → List Cell} (hcells : ∀ row, ∀ c ∈ cellsOf row, c.text ∈ row) :
    (rows.map cellsOf).findSome? rowFault? = none := by
  apply List.findSome?_eq_none_iff.2
  rw [List.forall_mem_map]
  intro row hrow
  exact rowFault?_eq_none fun c hc => h row hrow _ (hcells row c hc)

theorem exists_readColumns
    (h : ∀ row ∈ t.rows, ∀ cell ∈ row, Unstyled device cell.toList) (limit : Nat)
    (paddings : List Padding) :
    ∃ rows, layout.readColumns device limit t paddings = .ok rows ∧
      ∀ row ∈ rows, ∀ u ∈ row, u.Bare := by
  have hcell : ∀ row ∈ t.rows, ∀ i : Nat, Unstyled device ((row[i]?).getD "").toList := by
    intro row hrow i
    cases hi : row[i]? with
    | none => exact unstyled_of_tagless device (tagless_of_bracket_not_mem (by simp))
    | some cell => exact h row hrow cell (List.mem_of_getElem? hi)
  obtain ⟨columns, hcolumns, hbare⟩ : ∃ columns, (paddings.zipIdx.mapM fun e =>
      t.rows.mapM fun row =>
        if limit < e.1.total + 1 then pure {}
        else Styled.ofMarkup device ((row[e.2]?).getD "").toList) = .ok columns ∧
      ∀ column ∈ columns, ∀ u ∈ column, Styled.Bare u := by
    apply exists_mapM
    rintro ⟨p, i⟩ -
    apply exists_mapM
    intro row hrow
    split
    · exact ⟨{}, rfl, rfl⟩
    · exact hcell row hrow i
  refine ⟨_, congrArg (· >>= _) hcolumns, ?_⟩
  simp only [List.forall_mem_map]
  intro r _ column hcolumn
  cases hr : column[r]? with
  | none => rfl
  | some u => exact hbare column hcolumn u (List.mem_of_getElem? hr)

theorem text_mem_of_mem_zip {columns : List Column} {texts : List Styled}
    {sizes : List (Nat × Padding)} {cellOf : (Column × Styled) × Nat × Padding → Cell}
    (hcell : ∀ e, (cellOf e).text = e.1.2) {c : Cell}
    (hc : c ∈ ((columns.zip texts).zip sizes).map cellOf) : c.text ∈ texts := by
  obtain ⟨e, he, rfl⟩ := List.mem_map.1 hc
  rw [hcell]
  exact (List.of_mem_zip (List.of_mem_zip he).1).2

theorem exists_layout
    (h : ∀ row ∈ t.rows, ∀ cell ∈ row, Unstyled device cell.toList) (width : Nat) :
    ∃ lines, t.layout device width = .ok lines := by
  obtain ⟨rows, hrows, hbare⟩ := exists_readColumns h (width - (t.columns.length + 1))
    ((List.range t.columns.length).map (padding t.columns.length))
  rw [layout]
  simp only [hrows, bind, Except.bind]
  rw [bodyFault?_eq_none hbare]
  · exact ⟨_, rfl⟩
  · intro row c hc
    exact text_mem_of_mem_zip (fun _ => rfl) hc

/-- Printing a table fails only if the markup of a cell does. -/
theorem exists_printTable {s : Screen}
    (h : ∀ row ∈ t.rows, ∀ cell ∈ row, Unstyled s.device cell.toList) :
    ∃ text, s.printTable t = .ok text := by
  unfold Screen.printTable
  split
  · exact ⟨[], rfl⟩
  · obtain ⟨lines, hlines⟩ := exists_layout h s.width.toNat
    rw [hlines]
    exact ⟨_, rfl⟩

end Table

end Plateau.Console

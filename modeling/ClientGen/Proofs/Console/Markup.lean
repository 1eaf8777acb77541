import ClientGen.Console.Table
import ClientGen.Proofs.Success

/-!
# Text without tags

A tag that closes nothing is the only thing that a console text can be wrong about.  Text without an
opening bracket holds no tags, so it is shown as it stands, save for control characters, and so is
a table of such texts.

## Main results

* `Console.plain_of_not_mem` — text without an opening bracket is shown as it stands.
* `Console.Table.exists_lines` — a table without opening brackets can be drawn.
-/

namespace ClientGen.Console

variable {cs : List Char} {markup : String}

theorem tag?_of_not_mem (h : '[' ∉ cs) : tag? cs = none := by
  unfold tag?
  split
  · simp at h
  · rfl

theorem escapedTag?_of_not_mem (h : '[' ∉ cs) : escapedTag? cs = none := by
  have hdrop : '[' ∉ cs.drop (cs.takeWhile (· == '\\')).length :=
    fun hmem => h (List.mem_of_mem_drop hmem)
  rw [escapedTag?, tag?_of_not_mem hdrop]
  rfl

/-- Every character is a piece of its own, a backslash too, as there is no tag behind it. -/
theorem pieces_of_not_mem (h : '[' ∉ cs) : pieces cs = cs.map .char := by
  induction cs with
  | nil => rw [pieces, List.map_nil]
  | cons c rest ih =>
    have hrest : '[' ∉ rest := fun hmem => h (List.mem_cons_of_mem c hmem)
    have hhead : (rest.head? == some '[') = false := by
      cases rest with
      | nil => rfl
      | cons d tail =>
        have hne : d ≠ '[' := by
          rintro rfl
          exact hrest List.mem_cons_self
        simpa using hne
    rw [pieces]
    split
    · rename_i hfound
      rw [escapedTag?_of_not_mem h] at hfound
      simp at hfound
    · rw [hhead, Bool.and_false, if_neg (by simp), ih hrest, List.map_cons]

theorem shown_map_char (opened : List String) (cs : List Char) :
    shown opened (cs.map .char) = .ok (cs.filter fun c => !isSilent c) := by
  induction cs with
  | nil => rfl
  | cons c rest ih =>
    rw [List.map_cons, shown, ih, List.filter_cons]
    by_cases hsilent : isSilent c = true <;> simp [hsilent, bind, Except.bind, pure, Except.pure]

/-- **Text without an opening bracket** is shown as it stands. -/
theorem plain_of_not_mem (h : '[' ∉ markup.toList) :
    plain markup = .ok (markup.toList.filter fun c => !isSilent c) := by
  rw [plain, pieces_of_not_mem h, shown_map_char]

theorem Cell.exists_ofMarkup (h : '[' ∉ markup.toList) : ∃ cell, Cell.ofMarkup markup = .ok cell :=
  ⟨_, bind_eq_ok.2 ⟨_, plain_of_not_mem h, rfl⟩⟩

/-- **A table without opening brackets** can be drawn. -/
theorem Table.exists_lines {table : Table} (htitle : '[' ∉ table.title.toList)
    (hheaders : ∀ column ∈ table.columns, '[' ∉ column.header.toList)
    (hcells : ∀ row ∈ table.rows, ∀ cell ∈ row, '[' ∉ cell.toList) :
    ∃ lines, table.lines = .ok lines := by
  obtain ⟨headers, hheaders⟩ := exists_mapM_of_forall fun column hcolumn =>
    Cell.exists_ofMarkup (hheaders column hcolumn)
  obtain ⟨rows, hrows⟩ := exists_mapM_of_forall fun row hrow =>
    exists_mapM_of_forall fun cell hcell => Cell.exists_ofMarkup (hcells row hrow cell hcell)
  exact ⟨_, bind_eq_ok.2 ⟨_, plain_of_not_mem htitle, bind_eq_ok.2 ⟨headers, hheaders,
    bind_eq_ok.2 ⟨rows, hrows, rfl⟩⟩⟩⟩

/-- Numbers hold no brackets. -/
theorem bracket_not_mem_toString (n : Nat) : '[' ∉ (toString n).toList := by
  intro hmem
  have hdigit : '[' ∈ Nat.toDigits 10 n := by
    simpa [Nat.toString_eq_repr, Nat.repr] using hmem
  exact absurd (Nat.isDigit_of_mem_toDigits (by omega) (by omega) hdigit) (by decide)

end ClientGen.Console

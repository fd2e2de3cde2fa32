import MixedScript.Proofs.Layout.Tracks

/-!
# A laid-out script and its logical lines

The rows of the finished sheet, split at hard newlines, are the statements. When the script
holds no marker, every position the layout recorded names, at its byte offset, the character it
was recorded for.
-/

namespace MixedScript.Layout

open MixedScript.Text MixedScript.Scanner

theorem renderCells_eq_of_getElem? {r : List Cell} {col : Nat} {c : Char}
    (h : r[col]? = some (.char c)) :
    renderCells r = renderCells (r.take col) ++ c :: renderCells (r.drop (col + 1)) := by
  obtain ⟨hlt, hc⟩ := List.getElem?_eq_some_iff.1 h
  calc renderCells r = renderCells (r.take col ++ r[col] :: r.drop (col + 1)) := by
        rw [← List.drop_eq_getElem_cons hlt, List.take_append_drop]
    _ = _ := by simp [hc]

theorem renderCells_take_succ {r : List Cell} {col : Nat} {c : Char}
    (h : r[col]? = some (.char c)) :
    renderCells (r.take (col + 1)) = renderCells (r.take col) ++ [c] := by
  rw [List.take_add_one, h]
  simp

namespace Sheet

variable {g : Sheet}

theorem renderCells_cells (g : Sheet) :
    renderCells g.cells =
      g.closed.flatMap (fun r => renderCells r ++ ['\n']) ++ renderCells g.current := by
  simp [cells, renderCells, List.flatMap_assoc]

theorem sourceCells_cells (g : Sheet) :
    sourceCells g.cells =
      g.closed.flatMap (fun r => sourceCells r ++ ['\n']) ++ sourceCells g.current := by
  simp [cells, sourceCells, List.flatMap_assoc]

theorem splitOn_renderCells_cells (h : g.NoBreakCells) :
    (renderCells g.cells).splitOn '\n' = g.rows.map renderCells := by
  obtain ⟨closed, current⟩ := g
  simp only [renderCells_cells, rows]
  induction closed with
  | nil =>
    simpa using List.splitOn_eq_singleton
      (newline_not_mem_renderCells (h current (by simp [rows])))
  | cons r rs ih =>
    have hr : '\n' ∉ renderCells r := newline_not_mem_renderCells (h r (by simp [rows]))
    rw [List.flatMap_cons, List.append_assoc, List.append_assoc, List.singleton_append,
      List.splitOn_append_cons_self_of_not_mem hr,
      ih (fun r' hr' => h r' (by simp only [rows, List.mem_append, List.mem_cons,
        List.not_mem_nil, or_false] at hr' ⊢; rcases hr' with h | h <;> simp [h]))]
    simp

/-- The logical lines of a written sheet are its rows that are not blank. -/
theorem logicalLines_cells (h : g.NoBreakCells) :
    logicalLines (String.ofList (renderCells g.cells)) =
      g.lines.map fun r => String.ofList (renderCells r) := by
  simp only [logicalLines, String.toList_ofList, splitOn_renderCells_cells h, lines,
    List.filter_map, List.map_map]
  congr 1
  apply List.filter_congr
  intro r _
  simp [isBlankLine_renderCells, filled]

theorem markerFree_of_mem_rows (hf : MarkerFree (sourceCells g.cells)) {r : List Cell}
    (hr : r ∈ g.rows) : MarkerFree (sourceCells r) := by
  rw [sourceCells_cells] at hf
  simp only [rows, List.mem_append, List.mem_singleton] at hr
  rcases hr with hr | rfl
  · obtain ⟨A, B, hAB⟩ := List.append_of_mem hr
    refine hf.of_infix ⟨A.flatMap (fun r => sourceCells r ++ ['\n']),
      '\n' :: B.flatMap (fun r => sourceCells r ++ ['\n']) ++ sourceCells g.current, ?_⟩
    simp [hAB]
  · exact hf.of_infix (List.suffix_append _ _).isInfix

theorem getElem?_logicalLines (hb : g.NoBreakCells) {line : Nat} {row : List Cell}
    (h : g.lines[line]? = some row) :
    (logicalLines (String.ofList (renderCells g.cells)))[line]? =
      some (String.ofList (renderCells row)) := by
  simp [logicalLines_cells hb, h]

theorem columnToByte_row (hf : MarkerFree (sourceCells g.cells)) {line col : Nat}
    {row : List Cell} (h : g.lines[line]? = some row) (hcol : col ≤ row.length) :
    columnToByte (String.ofList (renderCells row)) col =
      some (byteLength (renderCells (row.take col))) :=
  columnToByte_renderCells
    (markerFree_of_mem_rows hf (List.mem_filter.1 (List.mem_of_getElem? h)).1) hcol

section Located

variable (hb : g.NoBreakCells) (hf : MarkerFree (sourceCells g.cells))
include hb hf

theorem At.located {line col : Nat} {c : Char} (h : g.At line col c) :
    ∃ l p r, (logicalLines (String.ofList (renderCells g.cells)))[line]? = some l ∧
      l.toList = p ++ c :: r ∧ columnToByte l col = some (byteLength p) := by
  obtain ⟨row, hrow, hc⟩ := h
  exact ⟨_, _, _, getElem?_logicalLines hb hrow, by simpa using renderCells_eq_of_getElem? hc,
    columnToByte_row hf hrow (Nat.le_of_lt (List.getElem?_eq_some_iff.1 hc).1)⟩

theorem At.located_pair {line col : Nat} {c₁ c₂ : Char} (h₁ : g.At line col c₁)
    (h₂ : g.At line (col + 1) c₂) :
    ∃ l p r, (logicalLines (String.ofList (renderCells g.cells)))[line]? = some l ∧
      l.toList = p ++ c₁ :: c₂ :: r ∧ columnToByte l col = some (byteLength p) := by
  obtain ⟨row, hrow, hc₁⟩ := h₁
  obtain ⟨row', hrow', hc₂⟩ := h₂
  obtain rfl : row = row' := Option.some.inj (hrow.symm.trans hrow')
  have hnext : (row.drop (col + 1))[0]? = some (.char c₂) := by simpa using hc₂
  refine ⟨_, _, renderCells (row.drop (col + 2)), getElem?_logicalLines hb hrow, ?_,
    columnToByte_row hf hrow (Nat.le_of_lt (List.getElem?_eq_some_iff.1 hc₁).1)⟩
  rw [String.toList_ofList, renderCells_eq_of_getElem? hc₁, renderCells_eq_of_getElem? hnext]
  simp [List.drop_drop]

theorem At.located_end {line col : Nat} {c : Char} (h : g.At line col c) :
    ∃ l p r, (logicalLines (String.ofList (renderCells g.cells)))[line]? = some l ∧
      l.toList = p ++ c :: r ∧ columnToByte l (col + 1) = some (byteLength (p ++ [c])) := by
  obtain ⟨row, hrow, hc⟩ := h
  refine ⟨_, _, _, getElem?_logicalLines hb hrow,
    by simpa using renderCells_eq_of_getElem? hc, ?_⟩
  rw [columnToByte_row hf hrow (List.getElem?_eq_some_iff.1 hc).1, renderCells_take_succ hc]

end Located

end Sheet

end MixedScript.Layout

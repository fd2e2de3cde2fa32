import Mathlib.Tactic.Conv
import MixedScript.Proofs.Target.Splice

/-!
# The columns of a statement

A marker where one begins is one column and every other character one column; `columnsOf` is
that reading, as cells. So `columnToByte` is the size in bytes of the first columns, and its
offsets grow with the column and never fall inside a character or a marker.
-/

namespace MixedScript.Layout

open MixedScript.Text

/-- The columns of a line read from the left: a marker where one begins, else one character. -/
def columnsOf : List Char → List Cell
  | [] => []
  | c :: rest =>
    if markerChars.isPrefixOf (c :: rest) then .soft :: columnsOf (rest.drop 20)
    else .char c :: columnsOf rest
termination_by cs => cs.length
decreasing_by
  all_goals
    simp only [List.length_cons, List.length_drop]
    omega

theorem renderCells_columnsOf (cs : List Char) : renderCells (columnsOf cs) = cs := by
  fun_induction columnsOf cs with
  | case1 => rfl
  | case2 c rest hm ih =>
    obtain ⟨t, ht⟩ := List.isPrefixOf_iff_prefix.1 hm
    have hrest : rest = markerChars.tail ++ t := by
      have h := ht
      rw [markerChars_eq_cons, List.cons_append] at h
      exact (List.cons.inj h).2.symm
    rw [renderCells_cons, Cell.rendered_soft, ih, ← ht, hrest, ← length_markerChars_tail,
      List.drop_left]
  | case3 c rest _ ih => simp [ih]

theorem prefix_renderCells_of_prefix_sourceCells {w : List Char} (hw : '\n' ∉ w) :
    ∀ {cs : List Cell}, w <+: sourceCells cs → w <+: renderCells cs
  | [], h => by simpa using h
  | .char c :: cs, h => by
    cases w with
    | nil => exact List.nil_prefix
    | cons a w =>
      simp only [sourceCells_cons, Cell.source_char, List.singleton_append,
        List.cons_prefix_cons] at h
      obtain ⟨rfl, h⟩ := h
      simpa using
        prefix_renderCells_of_prefix_sourceCells (fun hm => hw (List.mem_cons_of_mem _ hm)) h
  | .soft :: cs, h => by
    cases w with
    | nil => exact List.nil_prefix
    | cons a w =>
      simp only [sourceCells_cons, Cell.source_soft, List.singleton_append,
        List.cons_prefix_cons] at h
      exact absurd (h.1 ▸ List.mem_cons_self) hw

theorem MarkerFree.cons {c : Char} {cs : List Char} (h : MarkerFree cs)
    (hc : ¬ markerChars <+: c :: cs) : MarkerFree (c :: cs) := by
  intro hm
  rcases List.infix_cons_iff.1 hm with hp | hi
  · exact hc hp
  · exact h hi

theorem markerFree_sourceCells_columnsOf (cs : List Char) :
    MarkerFree (sourceCells (columnsOf cs)) := by
  fun_induction columnsOf cs with
  | case1 => exact fun hm => by simpa [markerChars_length] using hm.length_le
  | case2 c rest _ ih =>
    rw [sourceCells_cons, Cell.source_soft, List.singleton_append]
    refine ih.cons fun hp => ?_
    rw [markerChars_eq_cons, List.cons_prefix_cons] at hp
    exact absurd hp.1 (by decide)
  | case3 c rest hm ih =>
    rw [sourceCells_cons, Cell.source_char, List.singleton_append]
    refine ih.cons fun hp => ?_
    -- a marker at `c` would have its tail, which holds no newline, in the rest as written
    rw [markerChars_eq_cons, List.cons_prefix_cons] at hp
    obtain ⟨rfl, htail⟩ := hp
    have hw : '\n' ∉ markerChars.tail := by decide
    have h := prefix_renderCells_of_prefix_sourceCells hw htail
    rw [renderCells_columnsOf] at h
    apply hm
    rw [List.isPrefixOf_iff_prefix, markerChars_eq_cons]
    exact List.cons_prefix_cons.2 ⟨rfl, h⟩

theorem splitAtColumn_renderCells_of_lt :
    ∀ {cs : List Cell} {n : Nat}, MarkerFree (sourceCells cs) → cs.length < n →
      splitAtColumn (renderCells cs) n = none
  | _, 0, _, hn => absurd hn (Nat.not_lt_zero _)
  | [], _ + 1, _, _ => rfl
  | .char c :: cs, n + 1, h, hn => by
    have hfree : MarkerFree (c :: sourceCells cs) := by simpa using h
    have hlen : cs.length < n := by simpa using hn
    rw [renderCells_cons, Cell.rendered_char, List.singleton_append,
      splitAtColumn_succ_cons n (markerChars_not_prefix_char hfree),
      splitAtColumn_renderCells_of_lt hfree.of_cons hlen, Option.map_none]
  | .soft :: cs, n + 1, h, hn => by
    have hfree : MarkerFree ('\n' :: sourceCells cs) := by simpa using h
    have hlen : cs.length < n := by simpa using hn
    rw [renderCells_cons, Cell.rendered_soft,
      splitAtColumn_succ_of_markerChars n (List.prefix_append _ _), ← markerChars_length, List.drop_left, splitAtColumn_renderCells_of_lt hfree.of_cons hlen,
      Option.map_none]

theorem columnToByte_eq_some_iff {line : String} {c b : Nat} :
    columnToByte line c = some b ↔
      c ≤ (columnsOf line.toList).length ∧
        b = byteLength (renderCells ((columnsOf line.toList).take c)) := by
  have hfree := markerFree_sourceCells_columnsOf line.toList
  have hline := renderCells_columnsOf line.toList
  obtain ⟨cs, hcs⟩ : ∃ cs, columnsOf line.toList = cs := ⟨_, rfl⟩
  rw [hcs] at hfree hline ⊢
  unfold columnToByte
  rw [← hline]
  by_cases hc : c ≤ cs.length
  · rw [splitAtColumn_renderCells hfree hc]
    simp [hc, eq_comm]
  · rw [splitAtColumn_renderCells_of_lt hfree (Nat.lt_of_not_le hc)]
    simp [hc]

theorem byteLength_pos_of_ne_nil {cs : List Char} (h : cs ≠ []) : 0 < byteLength cs := by
  obtain ⟨c, cs, rfl⟩ := List.exists_cons_of_ne_nil h
  have := Char.utf8Size_pos c
  simp only [byteLength_cons]
  omega

theorem Cell.rendered_ne_nil : ∀ x : Cell, x.rendered ≠ []
  | .char _ => List.cons_ne_nil _ _
  | .soft => by decide

theorem byteLength_renderCells_take_lt {cs : List Cell} {c c' : Nat} (hc : c < c')
    (hc' : c' ≤ cs.length) :
    byteLength (renderCells (cs.take c)) < byteLength (renderCells (cs.take c')) := by
  obtain ⟨d, rfl⟩ := Nat.exists_eq_add_of_lt hc
  have hmid : (cs.drop c).take (d + 1) ≠ [] := by
    simp only [ne_eq, List.take_eq_nil_iff, List.drop_eq_nil_iff]
    omega
  obtain ⟨x, xs, hx⟩ := List.exists_cons_of_ne_nil hmid
  have hpos : 0 < byteLength x.rendered := byteLength_pos_of_ne_nil x.rendered_ne_nil
  rw [show c + d + 1 = c + (d + 1) by omega, List.take_add, renderCells_append, byteLength_append,
    hx, renderCells_cons, byteLength_append]
  omega

theorem prefix_renderCells_take (cs : List Cell) (c : Nat) :
    renderCells (cs.take c) <+: renderCells cs := by
  conv_rhs => rw [← List.take_append_drop c cs]
  rw [renderCells_append]
  exact List.prefix_append _ _

theorem byteLength_markerChars : byteLength markerChars = markerBytes := by decide

theorem byteLength_take_not_inside_soft (cs₁ cs₂ : List Cell) (c : Nat) :
    byteLength (renderCells ((cs₁ ++ .soft :: cs₂).take c)) ≤ byteLength (renderCells cs₁) ∨
      byteLength (renderCells cs₁) + markerBytes ≤
        byteLength (renderCells ((cs₁ ++ .soft :: cs₂).take c)) := by
  rw [List.take_append]
  cases h : c - cs₁.length with
  | zero =>
    left
    rw [List.take_zero, List.append_nil]
    exact byteLength_le_of_prefix (prefix_renderCells_take cs₁ c)
  | succ k =>
    right
    rw [List.take_of_length_le (by omega), List.take_succ_cons, renderCells_append,
      renderCells_cons, Cell.rendered_soft, byteLength_append, byteLength_append,
      byteLength_markerChars]
    omega

/-- Columns of a statement: a marker is one column, every other character one column. The
offset of column `c` exists exactly up to the last column and is then the size of the first `c`
columns; offsets grow strictly with the column, each is the size of a run of whole characters,
and none falls strictly inside an occurrence of the marker. -/
theorem columnToByte_counts_columns (line : String) :
    renderCells (columnsOf line.toList) = line.toList ∧
      (∀ c b, columnToByte line c = some b ↔
        c ≤ (columnsOf line.toList).length ∧
          b = byteLength (renderCells ((columnsOf line.toList).take c))) ∧
      (∀ c c' b b', c < c' → columnToByte line c = some b → columnToByte line c' = some b' →
        b < b') ∧
      (∀ c b, columnToByte line c = some b →
        ∃ k ≤ line.length, byteLength (line.toList.take k) = b) ∧
      (∀ c b p r, columnToByte line c = some b → line.toList = p ++ markerChars ++ r →
        b ≤ byteLength p ∨ byteLength p + markerBytes ≤ b) := by
  have hrender := renderCells_columnsOf line.toList
  refine ⟨hrender, fun c b => columnToByte_eq_some_iff, ?_, ?_, ?_⟩
  · intro c c' b b' hlt hb hb'
    obtain ⟨-, rfl⟩ := columnToByte_eq_some_iff.1 hb
    obtain ⟨hc', rfl⟩ := columnToByte_eq_some_iff.1 hb'
    exact byteLength_renderCells_take_lt hlt hc'
  · intro c b hb
    obtain ⟨-, rfl⟩ := columnToByte_eq_some_iff.1 hb
    have hp := prefix_renderCells_take (columnsOf line.toList) c
    rw [hrender] at hp
    refine ⟨(renderCells ((columnsOf line.toList).take c)).length, ?_, ?_⟩
    · simpa [String.length_toList] using hp.length_le
    · exact congrArg byteLength (List.prefix_iff_eq_take.1 hp).symm
  · intro c b p r hb hline
    obtain ⟨-, rfl⟩ := columnToByte_eq_some_iff.1 hb
    -- every marker of the statement is one of its columns
    obtain ⟨cs₁, cs₂, hcols, hp⟩ := eq_soft_of_eq_markerChars
      (markerFree_sourceCells_columnsOf line.toList) (hrender.trans hline)
    rw [hcols, ← hp]
    exact byteLength_take_not_inside_soft cs₁ cs₂ c

example : columnToByte ("x = f(1," ++ marker ++ "  $(pwd))") 11 = some 35 ∧
    columnToByte ("x = f(1," ++ marker ++ "  $(pwd))") 17 = some 41 := by
  decide

end MixedScript.Layout

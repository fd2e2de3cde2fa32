import MixedScript.Proofs.Layout.Lines

/-!
# Laying out a whole script

`Layout.ofSource` reads a script from the start. The invariant of the reader then holds of the
sheet it wrote, with nothing left to read, which settles what its results say about the script:
the laid-out text is the script with some newlines masked, and every recorded substitution and
unmatched closer lies on its logical line where its columns say. A substitution still open at
the end has had its `(` read, so it is the last one and on the last line.
-/

namespace MixedScript.Layout

open MixedScript.Text MixedScript.Scanner

/-- The sheet that laying out a script writes. -/
def Sheet.ofSource (t : String) : Sheet :=
  Scanner.sheetRun {} Sheet.empty t.toList

theorem Sheet.sourceCells_ofSource (t : String) : sourceCells (Sheet.ofSource t).cells = t.toList := by
  simp [Sheet.ofSource, sourceCells_sheetRun]

theorem Sheet.tracks_ofSource (t : String) :
    Tracks (Sheet.ofSource t) (Scanner.run {} t.toList) [] :=
  (Tracks.init t.toList).run

@[simp] theorem ofSource_text (t : String) :
    (Layout.ofSource t).text = (Scanner.run {} t.toList).text := rfl

@[simp] theorem ofSource_spans (t : String) :
    (Layout.ofSource t).spans = (Scanner.run {} t.toList).allSpans := rfl

@[simp] theorem ofSource_unmatched (t : String) :
    (Layout.ofSource t).unmatched = (Scanner.run {} t.toList).unmatched.toList := rfl

theorem text_eq_ofList {g : Sheet} {s : Scanner} {rest : List Char} (h : Tracks g s rest) :
    s.text = String.ofList (renderCells g.cells) := by
  rw [← h.text, String.ofList_toList]

/-- Restoring the laid-out text gives back the script, when the script holds no marker: the
laid-out text is the script with some newlines, the soft ones, replaced by the marker, and
those are all the markers it holds. -/
theorem restore_ofSource (t : String) (ht : MarkerFree t.toList) :
    restore (Layout.ofSource t).text = t ∧
      ∃ cs : List Cell, sourceCells cs = t.toList ∧
        renderCells cs = (Layout.ofSource t).text.toList ∧
        ∀ p r, (Layout.ofSource t).text.toList = p ++ markerChars ++ r →
          ∃ cs₁ cs₂, cs = cs₁ ++ .soft :: cs₂ ∧ renderCells cs₁ = p := by
  have h := Sheet.tracks_ofSource t
  have hsrc := Sheet.sourceCells_ofSource t
  have hf : MarkerFree (sourceCells (Sheet.ofSource t).cells) := hsrc ▸ ht
  refine ⟨?_, (Sheet.ofSource t).cells, hsrc, by simp [h.text], fun p r hp => ?_⟩
  · rw [restore, ofSource_text, h.text, unfoldChars_renderCells hf, hsrc, String.ofList_toList]
  · exact eq_soft_of_eq_markerChars hf (by simpa [h.text] using hp)

theorem restore_ofSource_parenthesised : MarkerFree "a = (1,\n2)".toList ∧
    (restore (Layout.ofSource "a = (1,\n2)").text = "a = (1,\n2)" ∧
      ∃ cs : List Cell, sourceCells cs = "a = (1,\n2)".toList ∧
        renderCells cs = (Layout.ofSource "a = (1,\n2)").text.toList ∧
        ∀ p r, (Layout.ofSource "a = (1,\n2)").text.toList = p ++ markerChars ++ r →
          ∃ cs₁ cs₂, cs = cs₁ ++ .soft :: cs₂ ∧ renderCells cs₁ = p) :=
  have h : MarkerFree "a = (1,\n2)".toList := markerFree_of_not_mem (by decide)
  ⟨h, restore_ofSource _ h⟩

theorem Sheet.row_of_logicalLines {t : String} (ht : MarkerFree t.toList) {i : Nat} {l : String}
    (hl : (logicalLines (Layout.ofSource t).text)[i]? = some l) :
    ∃ r, (Sheet.ofSource t).lines[i]? = some r ∧ r ∈ (Sheet.ofSource t).rows ∧
      MarkerFree (sourceCells r) ∧ l = String.ofList (renderCells r) := by
  have h := Sheet.tracks_ofSource t
  rw [ofSource_text, text_eq_ofList h, Sheet.logicalLines_cells h.noBreak,
    List.getElem?_map] at hl
  obtain ⟨r, hr, rfl⟩ := Option.map_eq_some_iff.1 hl
  have hrow : r ∈ (Sheet.ofSource t).rows := (List.mem_filter.1 (List.mem_of_getElem? hr)).1
  exact ⟨r, hr, hrow, Sheet.markerFree_of_mem_rows ((Sheet.sourceCells_ofSource t) ▸ ht) hrow, rfl⟩

theorem Sheet.length_lines_of_at {g : Sheet} {line col : Nat} {c : Char} (hat : g.At line col c)
    (hl : line = g.closedLines) : g.lines.length = line + 1 := by
  rcases hat.line_le with hlt | ⟨-, hf, -⟩
  · omega
  · simp [Sheet.lines_eq, hf, Sheet.closedLines, hl]

end MixedScript.Layout

namespace MixedScript

open MixedScript.Layout

theorem Span.Precedes.ordered {g : Sheet} {a b : Span} (hp : a.Precedes b) (ha : g.HasSpan a) :
    (a.line < b.line ∨ (a.line = b.line ∧ a.start < b.start)) ∧
      (a.line = b.line → ∀ e, a.stop = some e → e ≤ b.start) := by
  obtain ⟨e, he, hle, -⟩ := ha
  rcases hp with hl | ⟨hl, e', he', hle'⟩
  · exact ⟨.inl hl, fun h => absurd h (by omega)⟩
  · obtain rfl : e = e' := Option.some.inj (he.symm.trans he')
    exact ⟨.inr ⟨hl, by omega⟩, fun _ e'' he'' => by
      obtain rfl : e = e'' := Option.some.inj (he'.symm.trans he'')
      exact hle'⟩

namespace Scanner

section Final

variable {g : Sheet} {s : Scanner}

theorem mem_allSpans {sp : Span} :
    sp ∈ s.allSpans ↔ sp ∈ s.spans.toList ∨ ∃ d, s.pending = some (sp, d) := by
  unfold allSpans
  split <;> simp_all [eq_comm]

theorem allSpans_eq (s : Scanner) :
    s.allSpans = s.spans.toList ++ (s.pending.map Prod.fst).toList := by
  unfold allSpans
  split <;> simp_all

theorem Tracks.opening_done (h : Tracks g s []) {sp : Span} {d : Nat}
    (hp : s.pending = some (sp, d)) :
    sp.stop = none ∧ sp.line = s.line ∧ (∀ a ∈ s.spans.toList, a.Precedes sp) ∧
      g.At sp.line sp.start sp.kind.prefixChar ∧ g.At sp.line (sp.start + 1) '(' := by
  obtain ⟨hstop, hl, hpre, hat, hw⟩ := h.opening sp d hp
  rcases hw with ⟨-, -, hat'⟩ | ⟨-, -, hn, -⟩
  · exact ⟨hstop, hl, hpre, hat, hat'⟩
  · cases hn

theorem Tracks.opens (h : Tracks g s []) {sp : Span} (hsp : sp ∈ s.allSpans) :
    g.At sp.line sp.start sp.kind.prefixChar ∧ g.At sp.line (sp.start + 1) '(' := by
  rcases mem_allSpans.1 hsp with hsp | ⟨d, hp⟩
  · obtain ⟨-, -, -, h1, h2, -⟩ := h.finished sp hsp
    exact ⟨h1, h2⟩
  · obtain ⟨-, -, -, h1, h2⟩ := h.opening_done hp
    exact ⟨h1, h2⟩

theorem Tracks.hasSpan_of_stop (h : Tracks g s []) {sp : Span} (hsp : sp ∈ s.allSpans) {e : Nat}
    (he : sp.stop = some e) : g.HasSpan sp := by
  rcases mem_allSpans.1 hsp with hsp | ⟨d, hp⟩
  · exact h.finished sp hsp
  · simp [(h.opening_done hp).1] at he

theorem Tracks.allSpans_ordered (h : Tracks g s []) :
    s.allSpans.Pairwise fun a b => (a.line < b.line ∨ (a.line = b.line ∧ a.start < b.start)) ∧
      (a.line = b.line → ∀ e, a.stop = some e → e ≤ b.start) := by
  rw [allSpans_eq, List.pairwise_append]
  refine ⟨(h.order.imp_of_mem fun ha _ hp => hp.ordered (h.finished _ ha)), ?_, ?_⟩
  · cases s.pending <;> simp
  · intro a ha b hb
    cases hp : s.pending with
    | none => simp [hp] at hb
    | some p =>
      simp only [hp, Option.map_some, Option.toList_some, List.mem_singleton] at hb
      subst hb
      exact ((h.opening_done hp).2.2.1 a ha).ordered (h.finished a ha)

theorem Tracks.open_last (h : Tracks g s []) :
    s.allSpans.dropLast.all Span.terminated ∧
      ∀ sp, s.allSpans.getLast? = some sp → sp.stop = none → sp.line + 1 = g.lines.length := by
  have hfin : ∀ a ∈ s.spans.toList, a.terminated := by
    intro a ha
    obtain ⟨e, he, -⟩ := h.finished a ha
    simp [Span.terminated, he]
  rw [allSpans_eq]
  cases hp : s.pending with
  | none =>
    refine ⟨List.all_eq_true.2 fun a ha => hfin a (List.dropLast_subset _ (by simpa using ha)),
      fun sp hsp hstop => ?_⟩
    have := hfin sp (List.mem_of_getLast? (by simpa using hsp))
    simp [Span.terminated, hstop] at this
  | some p =>
    obtain ⟨sp, d⟩ := p
    obtain ⟨-, hl, -, hat, -⟩ := h.opening_done hp
    refine ⟨by simpa using List.all_eq_true.2 hfin, fun x hx _ => ?_⟩
    simp only [Option.map_some, Option.toList_some, List.getLast?_append, List.getLast?_singleton,
      Option.some_or, Option.some.injEq] at hx
    subst hx
    exact (Sheet.length_lines_of_at hat (hl.trans h.line)).symm

end Final

end Scanner

namespace Layout

open MixedScript.Text MixedScript.Scanner

/-- Where a layout's records stand on its logical lines: each substitution on one line, its
prefix and `(` at the byte offset of its start, its `)` just before the byte offset of its end, at
least one column apart; the substitutions in order of their starts, a finished one closing before
the next one on its line opens; only the last one open, and then on the last line; each unmatched
closer at the byte offset of its column. -/
structure Placed (n : Layout) : Prop where
  opens : ∀ sp ∈ n.spans, ∃ l p r, (logicalLines n.text)[sp.line]? = some l ∧
    l.toList = p ++ sp.kind.prefixChar :: '(' :: r ∧ columnToByte l sp.start = some (byteLength p)
  closes : ∀ sp ∈ n.spans, ∀ e, sp.stop = some e → sp.start + 3 ≤ e ∧
    ∃ l p r, (logicalLines n.text)[sp.line]? = some l ∧
      l.toList = p ++ ')' :: r ∧ columnToByte l e = some (byteLength p + 1)
  ordered : n.spans.Pairwise fun a b => (a.line < b.line ∨ (a.line = b.line ∧ a.start < b.start)) ∧
    (a.line = b.line → ∀ e, a.stop = some e → e ≤ b.start)
  open_last : n.spans.dropLast.all Span.terminated ∧
    ∀ sp, n.spans.getLast? = some sp → sp.stop = none → sp.line + 1 = (logicalLines n.text).length
  closers : ∀ u ∈ n.unmatched, ∃ l p r, (logicalLines n.text)[u.line]? = some l ∧
    l.toList = p ++ u.closer :: r ∧ columnToByte l u.column = some (byteLength p)

/-- Where the script holds no marker, its layout's records stand where they say. -/
theorem records_on_logicalLines (t : String) (ht : MarkerFree t.toList) :
    (Layout.ofSource t).Placed := by
  have h := Sheet.tracks_ofSource t
  have hf : MarkerFree (sourceCells (Sheet.ofSource t).cells) := (Sheet.sourceCells_ofSource t) ▸ ht
  refine ⟨fun sp hsp => ?_, fun sp hsp e he => ?_, h.allSpans_ordered, ?_, fun u hu => ?_⟩ <;>
    simp only [ofSource_text, ofSource_spans, ofSource_unmatched, text_eq_ofList h] at *
  · obtain ⟨h1, h2⟩ := h.opens hsp
    exact Sheet.At.located_pair h.noBreak hf h1 h2
  · obtain ⟨e', he', hle, -, -, hclose⟩ := h.hasSpan_of_stop hsp he
    obtain rfl : e = e' := Option.some.inj (he.symm.trans he')
    obtain ⟨l, p, r, hl, htext, hbyte⟩ := Sheet.At.located_end h.noBreak hf hclose
    refine ⟨hle, l, p, r, hl, htext, ?_⟩
    rwa [Nat.sub_add_cancel (by omega), byteLength_append] at hbyte
  · obtain ⟨hall, hlast⟩ := h.open_last
    refine ⟨hall, fun sp hsp hstop => ?_⟩
    rw [Sheet.logicalLines_cells h.noBreak, List.length_map]
    exact hlast sp hsp hstop
  · exact Sheet.At.located h.noBreak hf (h.unmatched u hu)

theorem records_on_logicalLines_continued :
    MarkerFree "x = f(1,\n  $(pwd))".toList ∧ (Layout.ofSource "x = f(1,\n  $(pwd))").Placed :=
  have h := markerFree_of_not_mem (by decide)
  ⟨h, records_on_logicalLines _ h⟩

end Layout

end MixedScript

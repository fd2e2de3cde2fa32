import MixedScript.Proofs.Compile.Expand
import MixedScript.Proofs.Target.Splice

/-!
# How a compile ends

Once the directives of a script are expanded, the only way its compile can fail is a
substitution whose `)` never comes. The classifier calls a statement blended only when
substitutions lie on it; those statements are not directives, so expansion left them as the
layout wrote them, and each is rewritten at byte offsets that fall between characters. So the
compile stops exactly at the first open substitution, and otherwise gives a program.
-/

namespace MixedScript

open MixedScript.Text MixedScript.Layout MixedScript.Target MixedScript.Line

namespace Line

theorem classifyLine_blended {line : String} {spans : List Span} {sc : Scope}
    (h : (classifyLine line spans sc).1 = .blended) : spans ≠ [] := by
  rintro rfl
  simp only [classifyLine, List.isEmpty_nil, if_true] at h
  split_ifs at h <;> (try split at h) <;> simp_all

theorem classifyFrom_blended {spans : List Span} :
    ∀ {i : Nat} {lines : List String} {sc : Scope} {k : Nat} {p : LineClass × Scope},
      (classifyFrom spans i lines sc)[k]? = some p → p.1 = .blended →
      Layout.spansOn spans (i + k) ≠ []
  | i, [], sc, k, p, h, _ => by simp [classifyFrom] at h
  | i, l :: ls, sc, 0, p, h, hb => by
    simp only [classifyFrom, List.getElem?_cons_zero, Option.some.injEq] at h
    subst h
    exact classifyLine_blended hb
  | i, l :: ls, sc, k + 1, p, h, hb => by
    simp only [classifyFrom, List.getElem?_cons_succ] at h
    rw [show i + (k + 1) = i + 1 + k by omega]
    exact classifyFrom_blended h hb

end Line

namespace Target

theorem emitLine_ok_of_ne {spans : List Span} {idx : Nat} {line : String} {c : LineClass}
    (h : c ≠ .blended) : ∃ o, emitLine spans idx line c = .ok o := by
  cases c
  case blended => exact absurd rfl h
  all_goals exact ⟨_, rfl⟩

theorem emitFrom_ok {spans : List Span} :
    ∀ {i : Nat} {lines : List String} {classes : List LineClass},
      (∀ k l c, lines[k]? = some l → classes[k]? = some c →
        ∃ o, emitLine spans (i + k) l c = .ok o) →
      ∃ out, emitFrom spans i lines classes = .ok out
  | i, l :: ls, c :: cs, h => by
    obtain ⟨o, ho⟩ : ∃ o, emitLine spans i l c = .ok o := by simpa using h 0 l c rfl rfl
    obtain ⟨rest, hrest⟩ := @emitFrom_ok spans (i + 1) ls cs fun k l' c' hl hc => by
      simpa [show i + 1 + k = i + (k + 1) by omega] using h (k + 1) l' c' hl hc
    refine ⟨o ++ "\n" ++ rest, ?_⟩
    rw [emitFrom, ho, hrest]
    rfl
  | _, [], _, _ => ⟨"", rfl⟩
  | _, _ :: _, [], _ => ⟨"", rfl⟩

theorem transpile_unterminated {lines : List String} {classes : List LineClass}
    {spans : List Span} {sp : Span} (h : spans.find? (fun s => !s.terminated) = some sp) :
    transpile lines classes spans = .error (.unterminated (sp.line + 1) sp.start) := by
  simp only [transpile, h]
  rfl

theorem transpile_ok {lines : List String} {classes : List LineClass} {spans : List Span}
    {body : String} (h : spans.find? (fun s => !s.terminated) = none)
    (hb : emitFrom spans 0 lines classes = .ok body) :
    transpile lines classes spans = .ok (restore body) := by
  simp only [transpile, h, hb]
  rfl

theorem transpile_classified_ok {lines : List String} {spans : List Span} {sc : Scope}
    (h : spans.find? (fun s => !s.terminated) = none)
    (hb : ∀ k l, lines[k]? = some l → Layout.spansOn spans k ≠ [] →
      ∃ out, rewriteBlended k l (Layout.spansOn spans k) = .ok out) :
    ∃ out, transpile lines ((Line.classifyFrom spans 0 lines sc).map (·.1)) spans = .ok out := by
  obtain ⟨body, hbody⟩ := @emitFrom_ok spans 0 lines ((Line.classifyFrom spans 0 lines sc).map (·.1))
    fun k l c hl hc => by
      rw [List.getElem?_map] at hc
      obtain ⟨p, hp, rfl⟩ := Option.map_eq_some_iff.1 hc
      by_cases hbl : p.1 = .blended
      · have hne := Line.classifyFrom_blended hp hbl
        rw [hbl, Nat.zero_add] at *
        exact hb k l hl hne
      · exact emitLine_ok_of_ne hbl
  exact ⟨_, transpile_ok h hbody⟩

end Target

namespace Layout

open MixedScript.Scanner

@[simp] theorem mem_spansOn {a : Span} {spans : List Span} {k : Nat} :
    a ∈ spansOn spans k ↔ a ∈ spans ∧ a.line = k := by
  simp [spansOn]

theorem Sheet.HasSpan.onRow {g : Sheet} {a : Span} (h : g.HasSpan a) {r : List Cell}
    (hr : g.lines[a.line]? = some r) : a.OnRow r := by
  obtain ⟨e, he, hle, ⟨r₁, hr₁, h₁⟩, ⟨r₂, hr₂, h₂⟩, ⟨r₃, hr₃, h₃⟩⟩ := h
  obtain rfl := Option.some.inj (hr₁.symm.trans hr)
  obtain rfl := Option.some.inj (hr₂.symm.trans hr)
  obtain rfl := Option.some.inj (hr₃.symm.trans hr)
  exact ⟨e, he, hle, h₁, h₂, h₃⟩

theorem onLine_of_mem_spansOn (t : String) (ht : MarkerFree t.toList)
    (hterm : ∀ sp ∈ (Layout.ofSource t).spans, sp.terminated = true) {k : Nat} {l : String}
    (hl : (logicalLines (Layout.ofSource t).text)[k]? = some l) {a : Span}
    (ha : a ∈ spansOn (Layout.ofSource t).spans k) : a.OnLine l.toList := by
  obtain ⟨r, hr, -, hrow, rfl⟩ := Sheet.row_of_logicalLines ht hl
  obtain ⟨hmem, hline⟩ := mem_spansOn.1 ha
  obtain ⟨e, he⟩ := Option.isSome_iff_exists.1 (hterm a hmem)
  rw [String.toList_ofList]
  exact (((Sheet.tracks_ofSource t).hasSpan_of_stop hmem he).onRow (hline ▸ hr)).onLine hrow

theorem spansOn_disjoint (t : String) (k : Nat) :
    (spansOn (Layout.ofSource t).spans k).Pairwise
      fun a b => ∀ e, a.stop = some e → e ≤ b.start :=
  ((Sheet.tracks_ofSource t).allSpans_ordered.filter _).imp_of_mem fun ha hb hab => by
    obtain ⟨-, hla⟩ := mem_spansOn.1 ha
    obtain ⟨-, hlb⟩ := mem_spansOn.1 hb
    exact hab.2 (hla.trans hlb.symm)

theorem rewriteBlended_logicalLines (t : String) (ht : MarkerFree t.toList)
    (hterm : ∀ sp ∈ (Layout.ofSource t).spans, sp.terminated = true) {k : Nat} {l : String}
    (hl : (logicalLines (Layout.ofSource t).text)[k]? = some l)
    (hne : spansOn (Layout.ofSource t).spans k ≠ []) :
    ∃ out, rewriteBlended k l (spansOn (Layout.ofSource t).spans k) = .ok out := by
  obtain ⟨out, -, hfold⟩ := foldlM_mergeSort_replaceSpan k l (List.Perm.refl _)
    (fun a ha => onLine_of_mem_spansOn t ht hterm hl ha) (spansOn_disjoint t k)
  exact ⟨_, rewriteBlended_of_foldlM (List.isEmpty_eq_false_iff.2 hne) hfold⟩

theorem parse?_eq_none_of_spansOn (t : String) (ht : MarkerFree t.toList) {k : Nat} {l : String}
    (hl : (logicalLines (Layout.ofSource t).text)[k]? = some l)
    (hne : spansOn (Layout.ofSource t).spans k ≠ []) : Directive.parse? l = none := by
  cases hd : Directive.parse? l with
  | none => rfl
  | some d =>
    obtain ⟨-, hfar⟩ := shaped_line_spared t ht hl (Directive.parse?_shaped hd)
    obtain ⟨sp, hsp⟩ := List.exists_mem_of_ne_nil _ hne
    obtain ⟨hmem, hline⟩ := mem_spansOn.1 hsp
    exact absurd hline (hfar sp hmem)

end Layout

namespace Compile

theorem compileWith_eq_emit {load : Path → CompileM String} {src : String} {base : Path}
    {fs fs' : FileTree} {ex bd : List String}
    (hx : expandLines load base (((Layout.ofSource src).text.toList.splitOn '\n').map String.ofList)
      fs = .ok ((ex, bd), fs')) :
    compileWith load src base fs = match emit src (Layout.ofSource src) ex bd with
      | .ok out => .ok (out, fs')
      | .error e => .error e := by
  change (expandLines load base _ >>= _).run fs = _
  rw [StateT.run_bind, StateT.run, hx]
  show StateT.run (match emit src (Layout.ofSource src) ex bd with
    | .ok out => pure out | .error e => throw e : CompileM String) fs' = _
  cases emit src (Layout.ofSource src) ex bd <;> rfl

theorem emit_unterminated {src : String} {l : Layout} {ex bd : List String} {sp : Span}
    (h : l.unterminated? = some sp) :
    emit src l ex bd = .error (.unterminated (sp.line + 1) sp.start) :=
  transpile_unterminated h

theorem emit_ok {t : String} (ht : MarkerFree t.toList) {load : Path → CompileM String}
    {base : Path} {fs fs' : FileTree} {ex bd : List String}
    (hx : expandLines load base (((Layout.ofSource t).text.toList.splitOn '\n').map String.ofList)
      fs = .ok ((ex, bd), fs'))
    (h : (Layout.ofSource t).unterminated? = none) :
    ∃ out, emit t (Layout.ofSource t) ex bd = .ok out := by
  have hterm : ∀ sp ∈ (Layout.ofSource t).spans, sp.terminated = true := fun sp hsp => by
    simpa using List.find?_eq_none.1 h sp hsp
  obtain ⟨hE, -⟩ := logicalLines_expandLines hx
  refine transpile_classified_ok h fun k l hl hne => ?_
  rw [hE, List.getElem?_map] at hl
  obtain ⟨l₀, hl₀, rfl⟩ := Option.map_eq_some_iff.1 hl
  rw [expandedLine, parse?_eq_none_of_spansOn t ht hl₀ hne]
  exact rewriteBlended_logicalLines t ht hterm hl₀ hne

theorem compileWith_ok {load : Path → CompileM String} {src : String} {base : Path}
    (hs : MarkerFree src.toList) {fs fs' : FileTree} {ex bd : List String}
    (hx : expandLines load base (((Layout.ofSource src).text.toList.splitOn '\n').map String.ofList)
      fs = .ok ((ex, bd), fs'))
    (h : (Layout.ofSource src).unterminated? = none) :
    ∃ out, compileWith load src base fs = .ok (out, fs') := by
  obtain ⟨out, hout⟩ := emit_ok hs hx h
  exact ⟨out, by rw [compileWith_eq_emit hx, hout]⟩

/-- Once its directives are expanded, a script without markers fails to compile exactly when a
substitution is left open, and the error names the statement and column of the first one. -/
theorem compileWith_error_iff_unterminated (load : Path → CompileM String) (src : String)
    (base : Path) (hs : MarkerFree src.toList) {fs fs' : FileTree} {ex bd : List String}
    (hx : expandLines load base (((Layout.ofSource src).text.toList.splitOn '\n').map String.ofList)
      fs = .ok ((ex, bd), fs')) (err : CompileError) :
    compileWith load src base fs = .error err ↔
      ∃ sp, (Layout.ofSource src).unterminated? = some sp ∧
        err = .unterminated (sp.line + 1) sp.start := by
  cases hu : (Layout.ofSource src).unterminated? with
  | some sp =>
    rw [compileWith_eq_emit hx, emit_unterminated hu]
    simp [eq_comm]
  | none =>
    obtain ⟨out, hout⟩ := compileWith_ok hs hx hu
    simp [hout]

theorem compileWith_error_iff_unterminated_open :
    MarkerFree "echo $(pwd)\ny = $(ls".toList ∧
    expandLines (fun _ => pure "") ⟨""⟩
      (((Layout.ofSource "echo $(pwd)\ny = $(ls").text.toList.splitOn '\n').map String.ofList)
      FileTree.empty = .ok ((["echo $(pwd)", "y = $(ls"], []), FileTree.empty) ∧
    (compileWith (fun _ => pure "") "echo $(pwd)\ny = $(ls" ⟨""⟩ FileTree.empty =
        .error (.unterminated 2 4) ↔
      ∃ sp, (Layout.ofSource "echo $(pwd)\ny = $(ls").unterminated? = some sp ∧
        CompileError.unterminated 2 4 = .unterminated (sp.line + 1) sp.start) := by
  have hs : MarkerFree "echo $(pwd)\ny = $(ls".toList := markerFree_of_not_mem (by decide)
  have hpieces : ((Layout.ofSource "echo $(pwd)\ny = $(ls").text.toList.splitOn '\n').map
      String.ofList = ["echo $(pwd)", "y = $(ls"] := by decide
  have hx : expandLines (fun _ => pure "") ⟨""⟩
      (((Layout.ofSource "echo $(pwd)\ny = $(ls").text.toList.splitOn '\n').map String.ofList)
      FileTree.empty = .ok ((["echo $(pwd)", "y = $(ls"], []), FileTree.empty) := by
    rw [hpieces]
    rfl
  exact ⟨hs, hx, compileWith_error_iff_unterminated _ _ _ hs hx _⟩

end Compile

end MixedScript

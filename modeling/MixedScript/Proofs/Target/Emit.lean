import MixedScript.Proofs.Compile.Outcome
import MixedScript.Proofs.Compile.Session
import MixedScript.Proofs.Directive.Artifact
import MixedScript.Proofs.Target.StatementLine

/-!
# The emitted program

The program is the emitted statements, each followed by a newline, with the soft breaks made
newlines again. A marker never runs across a newline, so restoring the whole program restores
each line on its own. In a script without markers every substitution of a statement is where the
statement shows it, so each statement, blended ones included, keeps to one line with its leading
blanks; a script whose statements are all emitted as written compiles to its own statements.
-/

namespace MixedScript

open MixedScript.Text MixedScript.Layout MixedScript.Target

namespace Layout

theorem markerChars_prefix_of_append_cons (a : List Char) {c : Char} {b : List Char}
    (hc : c ∉ markerChars) (h : markerChars <+: a ++ c :: b) :
    markerChars <+: a := by
  obtain ⟨t, ht⟩ := h
  rcases List.append_eq_append_iff.1 ht with ⟨a', rfl, -⟩ | ⟨c', hm, hc'⟩
  · exact List.prefix_append _ _
  · cases c' with
    | nil =>
      rw [List.append_nil] at hm
      exact hm ▸ List.prefix_refl _
    | cons x c' =>
      obtain ⟨rfl, -⟩ := List.cons.inj hc'
      exact absurd (hm ▸ by simp : c ∈ markerChars) hc

theorem unfoldChars_append_cons {c : Char} (hc : c ∉ markerChars) (b a : List Char) :
    unfoldChars (a ++ c :: b) = unfoldChars a ++ c :: unfoldChars b := by
  induction a using unfoldChars.induct with
  | case1 =>
    have hm : ¬ markerChars <+: c :: b := fun h =>
      absurd (List.prefix_nil.1 (markerChars_prefix_of_append_cons [] hc h)) (by decide)
    rw [List.nil_append, unfoldChars_nil, List.nil_append, unfoldChars,
      if_neg (by rwa [List.isPrefixOf_iff_prefix])]
  | case2 x rest hm ih =>
    have hm' : markerChars <+: x :: rest := List.isPrefixOf_iff_prefix.1 hm
    have hlen : 20 ≤ rest.length := by
      have := hm'.length_le
      simp only [markerChars_length, List.length_cons] at this
      omega
    have hm₂ : markerChars.isPrefixOf (x :: (rest ++ c :: b)) = true :=
      List.isPrefixOf_iff_prefix.2 (hm'.trans (List.prefix_append _ _))
    rw [List.cons_append, unfoldChars, if_pos hm₂, List.drop_append_of_le_length hlen, ih,
      unfoldChars, if_pos hm]
    rfl
  | case3 x rest hm ih =>
    have hm₂ : ¬ markerChars <+: x :: (rest ++ c :: b) := fun h =>
      hm (List.isPrefixOf_iff_prefix.2 (markerChars_prefix_of_append_cons (x :: rest) hc h))
    rw [List.cons_append, unfoldChars, if_neg (by rwa [List.isPrefixOf_iff_prefix]), ih,
      unfoldChars, if_neg hm]
    rfl

theorem unfoldChars_append_newline (b a : List Char) :
    unfoldChars (a ++ '\n' :: b) = unfoldChars a ++ '\n' :: unfoldChars b :=
  unfoldChars_append_cons newline_not_mem_markerChars b a

theorem restore_join_lines (ls : List String) :
    restore (String.join (ls.map (· ++ "\n"))) =
      String.join (ls.map fun l => restore l ++ "\n") := by
  induction ls with
  | nil => simp [restore, unfoldChars]
  | cons l ls ih =>
    rw [List.map_cons, List.map_cons, String.join_cons, String.join_cons, ← ih]
    rw [← String.toList_inj]
    simp [restore, unfoldChars_append_newline]

theorem newline_not_mem_logicalLines {text l : String} (h : l ∈ logicalLines text) :
    '\n' ∉ l.toList := by
  obtain ⟨p, hp, rfl⟩ := List.mem_map.1 h
  rw [String.toList_ofList]
  exact Path.not_mem_of_mem_splitOn (List.mem_filter.1 hp).1

end Layout

namespace Target

theorem keepsLine_rewriteBlended (t : String) (ht : MarkerFree t.toList)
    (hterm : ∀ sp ∈ (Layout.ofSource t).spans, sp.terminated = true) {k : Nat} {l e : String}
    (hl : (logicalLines (Layout.ofSource t).text)[k]? = some l)
    (h : rewriteBlended k l (spansOn (Layout.ofSource t).spans k) = .ok e) : KeepsLine l e := by
  have hon : ∀ a ∈ spansOn (Layout.ofSource t).spans k, a.OnLine l.toList :=
    fun a ha => onLine_of_mem_spansOn t ht hterm hl ha
  obtain ⟨out, hsplice, hfold⟩ :=
    foldlM_mergeSort_replaceSpan k l (List.Perm.refl _) hon (spansOn_disjoint t k)
  cases hS : spansOn (Layout.ofSource t).spans k with
  | nil =>
    rw [hS] at h
    cases h
  | cons a rest =>
    rw [hS] at hsplice hfold h hon
    rw [rewriteBlended_of_foldlM rfl hfold] at h
    cases h
    exact keepsLine_spliceCalls (newline_not_mem_logicalLines (List.mem_of_getElem? hl))
      (hon a List.mem_cons_self) hsplice

theorem keepsLine_emitLine (t : String) (ht : MarkerFree t.toList)
    (hterm : ∀ sp ∈ (Layout.ofSource t).spans, sp.terminated = true) {k : Nat} {l e : String}
    (hl : (logicalLines (Layout.ofSource t).text)[k]? = some l) {c : LineClass}
    (h : emitLine (Layout.ofSource t).spans k l c = .ok e) : KeepsLine l e := by
  have hnl : '\n' ∉ l.toList := newline_not_mem_logicalLines (List.mem_of_getElem? hl)
  cases c with
  | comment =>
    cases h
    exact .refl hnl
  | host =>
    cases h
    exact keepsLine_rewriteHost hnl
  | shell =>
    cases h
    exact keepsLine_shellStatement hnl
  | blended => exact keepsLine_rewriteBlended t ht hterm hl h
  | directive =>
    cases h
    split
    · exact .refl hnl
    · exact keepsLine_shellStatement hnl

theorem emitFrom_eq_ok {spans : List Span} :
    ∀ {i : Nat} {lines : List String} {classes : List LineClass} {body : String},
      emitFrom spans i lines classes = .ok body →
      ∃ E : List String, E.length = min lines.length classes.length ∧
        body = String.join (E.map (· ++ "\n")) ∧
        ∀ (k : Nat) e l c, E[k]? = some e → lines[k]? = some l → classes[k]? = some c →
          emitLine spans (i + k) l c = .ok e
  | i, l :: ls, c :: cs, body, h => by
    cases he : emitLine spans i l c with
    | error err =>
      rw [emitFrom, he] at h
      cases h
    | ok e =>
      cases hr : emitFrom spans (i + 1) ls cs with
      | error err =>
        rw [emitFrom, he, hr] at h
        cases h
      | ok rest =>
        rw [emitFrom, he, hr] at h
        cases h
        obtain ⟨E, hlen, rfl, hE⟩ := emitFrom_eq_ok hr
        refine ⟨e :: E, by simp [hlen, Nat.succ_min_succ], by simp [String.append_assoc], ?_⟩
        intro k e' l' c' hk hl hc
        cases k with
        | zero =>
          simp only [List.getElem?_cons_zero, Option.some.injEq] at hk hl hc
          subst hk hl hc
          exact he
        | succ k => simpa [Nat.add_right_comm, Nat.add_assoc] using hE k e' l' c' hk hl hc
  | _, [], _, body, h => by
    cases h
    exact ⟨[], by simp, rfl, by simp⟩
  | _, _ :: _, [], body, h => by
    cases h
    exact ⟨[], by simp, rfl, by simp⟩

theorem transpile_eq_ok {lines : List String} {classes : List LineClass} {spans : List Span}
    {out : String} (h : transpile lines classes spans = .ok out) :
    spans.find? (fun s => !s.terminated) = none ∧
      ∃ body, emitFrom spans 0 lines classes = .ok body ∧ out = restore body := by
  cases hf : spans.find? fun s => !s.terminated with
  | some sp =>
    rw [transpile_unterminated hf] at h
    cases h
  | none =>
    cases hb : emitFrom spans 0 lines classes with
    | error err =>
      simp only [transpile, hf, hb] at h
      cases h
    | ok body =>
      rw [transpile_ok hf hb] at h
      cases h
      exact ⟨rfl, body, rfl, rfl⟩

theorem emitFrom_of_verbatim {spans : List Span} :
    ∀ {i : Nat} {lines : List String} {classes : List LineClass},
      lines.length ≤ classes.length →
      (∀ (k : Nat) l c, lines[k]? = some l → classes[k]? = some c → Verbatim l c) →
      emitFrom spans i lines classes = .ok (String.join (lines.map (· ++ "\n")))
  | i, l :: ls, c :: cs, hlen, hv => by
    rw [emitFrom, emitLine_of_verbatim (hv 0 l c rfl rfl),
      emitFrom_of_verbatim (by simpa using hlen) fun k => hv (k + 1)]
    simp [String.append_assoc]
    rfl
  | _, [], [], _, _ => rfl
  | _, [], _ :: _, _, _ => rfl
  | _, _ :: _, [], hlen, _ => absurd hlen (by simp)

end Target

namespace Line

theorem length_classifyFrom (spans : List Span) :
    ∀ (i : Nat) (lines : List String) (sc : Scope),
      (classifyFrom spans i lines sc).length = lines.length
  | _, [], _ => rfl
  | i, l :: ls, sc => by
    rw [classifyFrom, List.length_cons, length_classifyFrom spans (i + 1) ls, List.length_cons]

end Line

namespace Compile

theorem expandLines_of_parse?_eq_none {load : Path → CompileM String} {base : Path} :
    ∀ {lines : List String}, (∀ l ∈ lines, Directive.parse? l = none) → ∀ fs : FileTree,
      expandLines load base lines fs = .ok ((lines, []), fs)
  | [], _, fs => rfl
  | line :: rest, h, fs => by
    have hrest : expandLines load base rest fs = .ok ((rest, []), fs) :=
      expandLines_of_parse?_eq_none (fun l hl => h l (List.mem_cons_of_mem _ hl)) fs
    rw [expandLines, h line List.mem_cons_self]
    simp only [bind, StateT.bind, hrest]
    rfl

theorem compile_text_eq_emit {t : String} {base : Path}
    (hd : ∀ p ∈ ((Layout.ofSource t).text.toList.splitOn '\n').map String.ofList,
      Directive.parse? p = none) (m : Nat) (fs : FileTree) :
    compile m (.text t base) fs =
      match emit t (Layout.ofSource t)
          (((Layout.ofSource t).text.toList.splitOn '\n').map String.ofList) [] with
      | .ok out => .ok (out, fs)
      | .error e => .error e := by
  rw [Session.compile_eq_runFrom]
  show compileText m (m - 0) [] t base fs = _
  rw [Nat.sub_zero, compileText_eq_compileWith]
  exact compileWith_eq_emit (expandLines_of_parse?_eq_none hd fs)

theorem compile_text_of_verbatim (t : String) (m : Nat) (base : Path) (fs : FileTree)
    (hu : (Layout.ofSource t).unterminated? = none)
    (hd : ∀ l ∈ (Layout.ofSource t).lines, Directive.parse? l = none)
    (hv : ∀ (k : Nat) l c, (Layout.ofSource t).lines[k]? = some l →
      (Line.classifyAll (Layout.ofSource t).lines (Layout.ofSource t).spans
        (Scope.ofSource t)).1[k]? = some c → Verbatim l c) :
    compile m (.text t base) fs =
      .ok (String.join ((Layout.ofSource t).lines.map fun l => restore l ++ "\n"), fs) := by
  -- The blank pieces of the layout are no directives either, so nothing is expanded.
  have hpieces : ∀ p ∈ ((Layout.ofSource t).text.toList.splitOn '\n').map String.ofList,
      Directive.parse? p = none := by
    intro p hp
    cases hb : isBlankLine p.toList
    · refine hd p ?_
      rw [Layout.lines, logicalLines_eq_filter]
      exact List.mem_filter.2 ⟨hp, by simp [hb]⟩
    · exact Directive.parse?_eq_none_of_isBlankLine hb
  have hstmts : logicalLines ("\n".intercalate
      (((Layout.ofSource t).text.toList.splitOn '\n').map String.ofList)) =
      (Layout.ofSource t).lines := by
    rw [(logicalLines_expandLines (@expandLines_of_parse?_eq_none (sourceLoad m m []) base _
      hpieces fs)).1]
    exact (List.map_congr_left fun l hl => by simp [expandedLine, hd l hl]).trans (List.map_id _)
  have hlen : (Layout.ofSource t).lines.length ≤ (Line.classifyAll (Layout.ofSource t).lines
      (Layout.ofSource t).spans (Scope.ofSource t)).1.length := by
    simp [Line.classifyAll, Line.length_classifyFrom]
  have hemit : emit t (Layout.ofSource t)
      (((Layout.ofSource t).text.toList.splitOn '\n').map String.ofList) [] =
      transpile (Layout.ofSource t).lines (Line.classifyAll (Layout.ofSource t).lines
        (Layout.ofSource t).spans (Scope.ofSource t)).1 (Layout.ofSource t).spans := by
    simp only [emit, List.foldl_nil, hstmts]
  rw [compile_text_eq_emit hpieces, hemit, transpile_ok hu (emitFrom_of_verbatim hlen hv),
    restore_join_lines]

/-- Each statement of a script without markers is emitted on one line of its own that keeps its
leading blanks, and as written when its class leaves nothing to rewrite; the program is those
lines, each followed by a newline, with soft breaks restored. So a script whose statements are
all emitted as written, none of them a directive, and whose substitutions all close, compiles to
its own statements. -/
theorem transpile_emits_statement_lines (t : String) (ht : MarkerFree t.toList) :
    (∀ (classes : List LineClass) (out : String),
      transpile (Layout.ofSource t).lines classes (Layout.ofSource t).spans = .ok out →
      ∃ E : List String, E.length = min (Layout.ofSource t).lines.length classes.length ∧
        out = restore (String.join (E.map (· ++ "\n"))) ∧
        ∀ (k : Nat) e l c, E[k]? = some e → (Layout.ofSource t).lines[k]? = some l →
          classes[k]? = some c → KeepsLine l e ∧ (Verbatim l c → e = l)) ∧
    ∀ (m : Nat) (base : Path) (fs : FileTree),
      (Layout.ofSource t).unterminated? = none →
      (∀ l ∈ (Layout.ofSource t).lines, Directive.parse? l = none) →
      (∀ (k : Nat) l c, (Layout.ofSource t).lines[k]? = some l →
        (Line.classifyAll (Layout.ofSource t).lines (Layout.ofSource t).spans
          (Scope.ofSource t)).1[k]? = some c → Verbatim l c) →
      compile m (.text t base) fs =
        .ok (String.join ((Layout.ofSource t).lines.map fun l => restore l ++ "\n"), fs) := by
  refine ⟨fun classes out h => ?_, compile_text_of_verbatim t⟩
  obtain ⟨hf, body, hbody, rfl⟩ := transpile_eq_ok h
  have hterm : ∀ sp ∈ (Layout.ofSource t).spans, sp.terminated = true := fun sp hsp => by
    simpa using List.find?_eq_none.1 hf sp hsp
  obtain ⟨E, hlen, rfl, hE⟩ := emitFrom_eq_ok hbody
  refine ⟨E, hlen, rfl, fun k e l c he hl hc => ?_⟩
  have hemit := hE k e l c he hl hc
  rw [Nat.zero_add] at hemit
  refine ⟨keepsLine_emitLine t ht hterm hl hemit, fun hv => ?_⟩
  rw [emitLine_of_verbatim hv] at hemit
  cases hemit
  rfl

theorem transpile_emits_statement_lines_parenthesised :
    MarkerFree "x = (1,\n2)\n# done".toList ∧
    (Layout.ofSource "x = (1,\n2)\n# done").unterminated? = none ∧
    (∀ l ∈ (Layout.ofSource "x = (1,\n2)\n# done").lines, Directive.parse? l = none) ∧
    (Line.classifyAll (Layout.ofSource "x = (1,\n2)\n# done").lines
      (Layout.ofSource "x = (1,\n2)\n# done").spans (Scope.ofSource "x = (1,\n2)\n# done")).1 =
      [.host, .comment] ∧
    compile defaultMaxDepth (.text "x = (1,\n2)\n# done" ⟨""⟩) FileTree.empty =
      .ok ("x = (1,\n2)\n# done\n", FileTree.empty) := by
  have ht : MarkerFree "x = (1,\n2)\n# done".toList := markerFree_of_not_mem (by decide)
  have hu : (Layout.ofSource "x = (1,\n2)\n# done").unterminated? = none := by decide +kernel
  have hlines : (Layout.ofSource "x = (1,\n2)\n# done").lines.all
      (fun l => (Directive.parse? l).isNone && !l.toList.contains '$') = true := by decide +kernel
  have hline : ∀ l ∈ (Layout.ofSource "x = (1,\n2)\n# done").lines,
      Directive.parse? l = none ∧ '$' ∉ l.toList := fun l hl => by
    simpa using List.all_eq_true.1 hlines l hl
  have hclasses : (Line.classifyAll (Layout.ofSource "x = (1,\n2)\n# done").lines
      (Layout.ofSource "x = (1,\n2)\n# done").spans (Scope.ofSource "x = (1,\n2)\n# done")).1 =
      [.host, .comment] := by decide +kernel
  -- the statement is host code without a dollar, and the comment is kept as written
  have hv : ∀ (k : Nat) l c, (Layout.ofSource "x = (1,\n2)\n# done").lines[k]? = some l →
      (Line.classifyAll (Layout.ofSource "x = (1,\n2)\n# done").lines
        (Layout.ofSource "x = (1,\n2)\n# done").spans
        (Scope.ofSource "x = (1,\n2)\n# done")).1[k]? = some c → Verbatim l c := by
    intro k l c hl hc
    rw [hclasses] at hc
    rcases k with _ | _ | k
    · cases hc
      exact plainHost_of_dollar_not_mem (hline l (List.mem_of_getElem? hl)).2
    · cases hc
      trivial
    · cases hc
  have hout : String.join ((Layout.ofSource "x = (1,\n2)\n# done").lines.map
      fun l => restore l ++ "\n") = "x = (1,\n2)\n# done\n" := by decide +kernel
  refine ⟨ht, hu, fun l hl => (hline l hl).1, hclasses, ?_⟩
  rw [(transpile_emits_statement_lines _ ht).2 defaultMaxDepth ⟨""⟩ FileTree.empty hu
    (fun l hl => (hline l hl).1) hv, hout]

/-- A comment that opens a substitution and never closes it is not compiled as written: the
open substitution stops the compile. -/
theorem compile_comment_with_open_substitution :
    MarkerFree "'''a' $(ls".toList ∧
      (Layout.ofSource "'''a' $(ls").lines = ["'''a' $(ls"] ∧
      (Line.classifyAll ["'''a' $(ls"] (Layout.ofSource "'''a' $(ls").spans
        (Scope.ofSource "'''a' $(ls")).1 = [.comment] ∧
      Directive.parse? "'''a' $(ls" = none ∧
      compile defaultMaxDepth (.text "'''a' $(ls" ⟨""⟩) FileTree.empty =
        .error (.unterminated 1 6) := by
  have hd : Directive.parse? "'''a' $(ls" = none := by decide
  have hpieces : ((Layout.ofSource "'''a' $(ls").text.toList.splitOn '\n').map String.ofList =
      ["'''a' $(ls"] := by decide
  have hu : (Layout.ofSource "'''a' $(ls").unterminated? = some ⟨0, 6, none, .dollar⟩ := by
    decide
  refine ⟨markerFree_of_not_mem (by decide), by decide, by decide, hd, ?_⟩
  rw [compile_text_eq_emit (by rw [hpieces]; simpa using hd), emit_unterminated hu]

end Compile

end MixedScript

import Mathlib.Data.List.Basic
import MixedScript.Compile
import MixedScript.Proofs.Layout.Directives

/-!
# Expanding directives

`Compile.expandLines` rewrites the lines of a laid-out script one at a time: a directive line
becomes a call of the runtime's `source`, every other line stays as it is. When every sourced
script compiles and every artifact is written, the expanded text has the logical lines of the
laid-out one, in the same places; the directive lines among them hold no soft break and carry
no inline substitution, and the bound names are theirs, in order.
-/

namespace MixedScript

open MixedScript.Text MixedScript.Scope MixedScript.Layout MixedScript.Directive

namespace Directive

theorem parse?_eq_none_of_isBlankLine {line : String} (h : isBlankLine line.toList = true) :
    parse? line = none := by
  unfold parse?
  dsimp only
  split_ifs with h₁ h₂
  · have hs : 's' ∈ line.toList := by
      obtain ⟨r, hr⟩ := List.isPrefixOf_iff_prefix.1 h₁
      exact List.mem_of_mem_drop (hr ▸ List.mem_append_left r (by decide))
    simp only [isBlankLine, List.all_eq_true] at h
    exact absurd (h 's' hs) (by decide)
  · rfl
  · rfl

theorem filterMap_filter_nonblank {β : Type} {f : String → Option β}
    (hf : ∀ l, isBlankLine l.toList = true → f l = none) (ls : List String) :
    (ls.filter fun l => !isBlankLine l.toList).filterMap f = ls.filterMap f := by
  rw [List.filterMap_filter]
  refine List.filterMap_congr fun l _ => ?_
  cases hb : isBlankLine l.toList
  · rfl
  · simp [hf l hb]

theorem isInlineBlank_of_mem_indent {line : String} {d : Directive} (h : parse? line = some d)
    {c : Char} (hc : c ∈ d.indent.toList) : isInlineBlank c = true := by
  unfold parse? at h
  dsimp only at h
  split_ifs at h
  obtain ⟨x, -, rfl⟩ := Option.map_eq_some_iff.1 h
  simp only [String.toList_ofList] at hc
  exact List.mem_takeWhile_imp hc

end Directive

theorem newline_not_mem_quoteDouble (s : String) : '\n' ∉ (quoteDouble s).toList := by
  simp only [quoteDouble, String.toList_append, String.toList_join, List.mem_append,
    List.mem_flatMap, List.mem_map, not_or, not_exists, not_and]
  refine ⟨⟨by decide, ?_⟩, by decide⟩
  rintro piece ⟨c, -, rfl⟩
  split
  · decide
  · decide
  · decide
  · rename_i hn
    simpa [eq_comm] using hn

namespace Compile

theorem bind_eq_ok {α β : Type} {x : CompileM α} {f : α → CompileM β} {fs fs' : FileTree} {b : β}
    (h : (x >>= f) fs = .ok (b, fs')) : ∃ a fs₁, x fs = .ok (a, fs₁) ∧ f a fs₁ = .ok (b, fs') := by
  change (x >>= f).run fs = _ at h
  rw [StateT.run_bind] at h
  cases hr : x.run fs with
  | error e =>
    rw [hr] at h
    cases h
  | ok p => exact ⟨p.1, p.2, hr, by rw [hr] at h; exact h⟩

/-- The line that stands for a line of a laid-out script once its directives are expanded. -/
def expandedLine (base : Path) (line : String) : String :=
  match Directive.parse? line with
  | some d => sourceCall d (artifactPath (base.join ⟨d.path⟩))
  | none => line

theorem expandLines_ok {load : Path → CompileM String} {base : Path} :
    ∀ {lines : List String} {fs fs' : FileTree} {ex bd : List String},
      expandLines load base lines fs = .ok ((ex, bd), fs') →
      ex = lines.map (expandedLine base) ∧
        bd = lines.filterMap fun l => (Directive.parse? l).map Directive.boundName
  | [], fs, fs', ex, bd, h => by
    simp only [expandLines, pure, StateT.pure, Except.pure, Except.ok.injEq, Prod.mk.injEq] at h
    obtain ⟨⟨rfl, rfl⟩, -⟩ := h
    simp
  | line :: rest, fs, fs', ex, bd, h => by
    unfold expandLines at h
    cases hd : Directive.parse? line with
    | none =>
      rw [hd] at h
      obtain ⟨⟨ls, ns⟩, fs₁, hr, hp⟩ := bind_eq_ok h
      obtain ⟨rfl, rfl⟩ := expandLines_ok hr
      simp only [pure, StateT.pure, Except.pure, Except.ok.injEq, Prod.mk.injEq] at hp
      obtain ⟨⟨rfl, rfl⟩, -⟩ := hp
      simp [expandedLine, hd]
    | some d =>
      rw [hd] at h
      obtain ⟨body, fs₁, -, h₁⟩ := bind_eq_ok h
      obtain ⟨-, fs₂, -, h₂⟩ := bind_eq_ok h₁
      obtain ⟨⟨ls, ns⟩, fs₃, hr, hp⟩ := bind_eq_ok h₂
      obtain ⟨rfl, rfl⟩ := expandLines_ok hr
      simp only [pure, StateT.pure, Except.pure, Except.ok.injEq, Prod.mk.injEq] at hp
      obtain ⟨⟨rfl, rfl⟩, -⟩ := hp
      simp [expandedLine, hd]

theorem newline_not_mem_sourceCall {line : String} {d : Directive}
    (h : Directive.parse? line = some d) (artifact : Path) :
    '\n' ∉ (sourceCall d artifact).toList := by
  have hindent : '\n' ∉ d.indent.toList := fun hc => by
    simpa [isInlineBlank] using isInlineBlank_of_mem_indent h hc
  simp [sourceCall, hindent, newline_not_mem_quoteDouble]

theorem isBlankLine_sourceCall (d : Directive) (artifact : Path) :
    isBlankLine (sourceCall d artifact).toList = false := by
  have hs : 's' ∈ (sourceCall d artifact).toList := by simp [sourceCall]
  simp only [isBlankLine, List.all_eq_false]
  exact ⟨'s', hs, by decide⟩

theorem isBlankLine_expandedLine (base : Path) (line : String) :
    isBlankLine (expandedLine base line).toList = isBlankLine line.toList := by
  unfold expandedLine
  split
  · rename_i d hd
    rw [isBlankLine_sourceCall]
    cases hb : isBlankLine line.toList
    · rfl
    · simp [parse?_eq_none_of_isBlankLine hb] at hd
  · rfl

theorem newline_not_mem_expandedLine (base : Path) {line : String} (h : '\n' ∉ line.toList) :
    '\n' ∉ (expandedLine base line).toList := by
  unfold expandedLine
  split
  · rename_i d hd
    exact newline_not_mem_sourceCall hd _
  · exact h

theorem logicalLines_intercalate {ls : List String} (h : ∀ l ∈ ls, '\n' ∉ l.toList)
    (hne : ls ≠ []) : logicalLines ("\n".intercalate ls) = ls.filter fun l => !isBlankLine l.toList := by
  have hsplit : ("\n".intercalate ls).toList.splitOn '\n' = ls.map String.toList := by
    rw [String.toList_intercalate]
    exact List.splitOn_intercalate '\n' (by simpa using h) (by simpa using hne)
  rw [logicalLines, hsplit, List.filter_map, List.map_map]
  simp [Function.comp_def]

theorem logicalLines_eq_filter (text : String) :
    logicalLines text = ((text.toList.splitOn '\n').map String.ofList).filter
      fun l => !isBlankLine l.toList := by
  simp [logicalLines, List.filter_map, Function.comp_def]

theorem newline_not_mem_of_mem_splitOn_text (t : String) {p : List Char}
    (hp : p ∈ (Layout.ofSource t).text.toList.splitOn '\n') : '\n' ∉ p := by
  have h := Sheet.tracks_ofSource t
  rw [ofSource_text, h.text, Sheet.splitOn_renderCells_cells h.noBreak] at hp
  obtain ⟨r, hr, rfl⟩ := List.mem_map.1 hp
  exact newline_not_mem_renderCells (h.noBreak r hr)

theorem logicalLines_expandLines {t : String} {load : Path → CompileM String} {base : Path}
    {fs fs' : FileTree} {ex bd : List String}
    (hx : expandLines load base (((Layout.ofSource t).text.toList.splitOn '\n').map String.ofList)
      fs = .ok ((ex, bd), fs')) :
    logicalLines ("\n".intercalate ex) =
        (logicalLines (Layout.ofSource t).text).map (expandedLine base) ∧
      bd = (logicalLines (Layout.ofSource t).text).filterMap
        fun l => (Directive.parse? l).map Directive.boundName := by
  obtain ⟨hex, hbd⟩ := expandLines_ok hx
  have hN := logicalLines_eq_filter (Layout.ofSource t).text
  have hpieces : ∀ l ∈ ((Layout.ofSource t).text.toList.splitOn '\n').map String.ofList,
      '\n' ∉ l.toList := by
    intro l hl
    obtain ⟨p, hp, rfl⟩ := List.mem_map.1 hl
    simpa using newline_not_mem_of_mem_splitOn_text t hp
  have hne : ((Layout.ofSource t).text.toList.splitOn '\n').map String.ofList ≠ [] := by
    simp [List.splitOn_ne_nil]
  generalize ((Layout.ofSource t).text.toList.splitOn '\n').map String.ofList = pieces
    at hex hbd hN hpieces hne
  subst hex hbd
  have hkeep : pieces.filter ((fun l => !isBlankLine l.toList) ∘ expandedLine base) =
      logicalLines (Layout.ofSource t).text := by
    rw [hN]
    exact List.filter_congr fun l _ => by simp [isBlankLine_expandedLine]
  refine ⟨?_, ?_⟩
  · rw [logicalLines_intercalate (fun l hl => ?_) (by simpa using hne), List.filter_map, hkeep]
    obtain ⟨l', hl', rfl⟩ := List.mem_map.1 hl
    exact newline_not_mem_expandedLine base (hpieces l' hl')
  · rw [hN, filterMap_filter_nonblank fun l hb => by simp [parse?_eq_none_of_isBlankLine hb]]

/-- What expanding the directives of a layout `n` against `base` into the lines `ex`, binding
the names `bd`, gives: the logical lines of `n` in place, each directive line rewritten into its
call of `source`, every other line as it was; a directive line holds no marker and carries no
inline substitution; the bound names are those of the directive lines, in order. -/
structure ExpandsLayout (n : Layout) (base : Path) (ex bd : List String) : Prop where
  length : (logicalLines ("\n".intercalate ex)).length = (logicalLines n.text).length
  lines : ∀ i l, (logicalLines n.text)[i]? = some l →
    (Directive.parse? l = none ∧ (logicalLines ("\n".intercalate ex))[i]? = some l) ∨
    ∃ d, Directive.parse? l = some d ∧
      (logicalLines ("\n".intercalate ex))[i]? =
        some (sourceCall d (artifactPath (base.join ⟨d.path⟩))) ∧
      MarkerFree l.toList ∧ ∀ sp ∈ n.spans, sp.line ≠ i
  bound : bd = (logicalLines n.text).filterMap fun l => (Directive.parse? l).map Directive.boundName

/-- Expanding the directives of a script without markers keeps its logical lines in place, when
every sourced script compiles and every artifact is written. -/
theorem expandLines_logicalLines (t : String) (ht : MarkerFree t.toList)
    (load : Path → CompileM String) (base : Path) (fs fs' : FileTree) (ex bd : List String)
    (hx : expandLines load base (((Layout.ofSource t).text.toList.splitOn '\n').map String.ofList)
      fs = .ok ((ex, bd), fs')) :
    ExpandsLayout (Layout.ofSource t) base ex bd := by
  obtain ⟨hE, hbd⟩ := logicalLines_expandLines hx
  refine ⟨by simp [hE], fun i l hl => ?_, hbd⟩
  rw [hE, List.getElem?_map, hl, Option.map_some]
  cases hd : Directive.parse? l with
  | none => exact .inl ⟨rfl, by simp [expandedLine, hd]⟩
  | some d =>
    exact .inr ⟨d, rfl, by simp [expandedLine, hd], shaped_line_spared t ht hl (parse?_shaped hd)⟩

theorem expandLines_logicalLines_sourced :
    MarkerFree "source lib.sh\nx = 1".toList ∧
    expandLines (fun _ => pure "pass") ⟨""⟩
      (((Layout.ofSource "source lib.sh\nx = 1").text.toList.splitOn '\n').map String.ofList)
      FileTree.empty =
      .ok ((["source(\".lib.py\", \"lib\")", "x = 1"], ["lib"]),
        FileTree.empty.set [".lib.py"] (.file (Target.importPreamble ++ "\n\n" ++ "pass"))) ∧
    ExpandsLayout (Layout.ofSource "source lib.sh\nx = 1") ⟨""⟩
      ["source(\".lib.py\", \"lib\")", "x = 1"] ["lib"] := by
  have ht : MarkerFree "source lib.sh\nx = 1".toList := markerFree_of_not_mem (by decide)
  have hpieces : ((Layout.ofSource "source lib.sh\nx = 1").text.toList.splitOn '\n').map
      String.ofList = ["source lib.sh", "x = 1"] := by decide
  have hd : Directive.parse? "source lib.sh" = some ⟨"", "lib.sh", none⟩ := by rfl
  have hx1 : Directive.parse? "x = 1" = none := by rfl
  have ha : artifactPath (Path.join ⟨""⟩ ⟨"lib.sh"⟩) = ⟨".lib.py"⟩ := by rfl
  have hc : (".lib.py").contains '\x00' = false := by simp
  have hw : FileTree.empty.write ⟨".lib.py"⟩ (Target.importPreamble ++ "\n\n" ++ "pass") =
      .ok (FileTree.empty.set [".lib.py"] (.file (Target.importPreamble ++ "\n\n" ++ "pass"))) := by
    simp only [FileTree.write, hc]
    rfl
  have hx : expandLines (fun _ => pure "pass") ⟨""⟩
      (((Layout.ofSource "source lib.sh\nx = 1").text.toList.splitOn '\n').map String.ofList)
      FileTree.empty =
      .ok ((["source(\".lib.py\", \"lib\")", "x = 1"], ["lib"]),
        FileTree.empty.set [".lib.py"] (.file (Target.importPreamble ++ "\n\n" ++ "pass"))) := by
    rw [hpieces]
    simp only [expandLines, hd, ha, writeArtifact]
    simp only [bind, StateT.bind, pure, StateT.pure, get, getThe, MonadStateOf.get, StateT.get, set,
      StateT.set, MonadStateOf.set, Except.bind, Except.pure, hw, hx1]
    rfl
  exact ⟨ht, hx, expandLines_logicalLines _ ht _ _ _ _ _ _ hx⟩

end Compile

end MixedScript

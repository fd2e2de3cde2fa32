import MixedScript.Explain
import MixedScript.Proofs.Compile.Expand
import MixedScript.Proofs.Line.Classify

/-!
# What the explanation lists

The explanation classifies the laid-out statements in the script's own scope; the compile
classifies them expanded, with the names the directives bind among the imports. When no
statement starts with such a name, the two give the same classes.
-/

namespace MixedScript.Directive

open MixedScript.Text MixedScript.Layout MixedScript.Scope

theorem parse?_source_shape {line : String} {d : Directive} (h : parse? line = some d) :
    ∃ b rest, line.toList = d.indent.toList ++ "source".toList ++ b :: rest ∧
      isInlineBlank b = true := by
  unfold parse? at h
  dsimp only at h
  split_ifs at h with h₁ h₂
  obtain ⟨x, -, rfl⟩ := Option.map_eq_some_iff.1 h
  simp only [Bool.and_eq_true, decide_eq_true_eq] at h₂
  have hline := takeWhile_append_drop_countWhile isInlineBlank line.toList
  unfold countWhile at hline
  generalize line.toList.drop (line.toList.takeWhile isInlineBlank).length = r at *
  have hr : "source".toList ++ r.drop 6 = r :=
    List.prefix_iff_eq_append.1 (List.isPrefixOf_iff_prefix.1 h₁)
  generalize r.drop 6 = r₁ at *
  cases r₁ with
  | nil => simp [countWhile] at h₂
  | cons b rest =>
    have hb : isInlineBlank b = true := by
      by_contra hb
      simp [countWhile, hb] at h₂
    refine ⟨b, rest, ?_, hb⟩
    rw [String.toList_ofList, List.append_assoc, hr]
    exact hline.symm

theorem assignmentTargets_of_parse? {line : String} {d : Directive} (h : parse? line = some d)
    (he : '=' ∈ line.toList) :
    Line.assignmentTargets (line.toList.takeWhile (· != '=')) = none := by
  rcases parse?_shaped h with hp | ⟨pre, com, hcs, hpre, -⟩
  · exact absurd (hp '=' he) (by decide)
  · have hne : ∀ a ∈ pre, (a != '=') = true := fun a ha => by
      have hlead := hpre a ha
      exact bne_iff_ne.2 fun hae => absurd (hae ▸ hlead) (by decide)
    have hmem : '#' ∈ line.toList.takeWhile (· != '=') := by
      rw [hcs, List.takeWhile_append_of_pos hne, List.takeWhile_cons_of_pos (by decide)]
      simp
    exact Line.assignmentTargets_eq_none_of_mem hmem (by decide) (by decide) (by decide)
      (by decide) (by decide)

theorem classifyLine_of_parse? {line : String} {d : Directive} (h : parse? line = some d)
    (sc : Scope) :
    Line.classifyLine line [] sc =
      (if Line.startsWithHostName ["source".toList] sc then .host else .directive, sc) := by
  obtain ⟨b, rest, hline, hb⟩ := parse?_source_shape h
  exact Line.classifyLine_source sc hline (fun _ hc => isInlineBlank_of_mem_indent h hc) (.inl hb)
    (assignmentTargets_of_parse? h)

theorem leadName_of_parse? {line : String} {d : Directive} (h : parse? line = some d) :
    Line.leadName line = some "source" := by
  obtain ⟨b, rest, hline, hb⟩ := parse?_source_shape h
  rw [Line.leadName, Line.trimStart_source hline (fun _ hc => isInlineBlank_of_mem_indent h hc),
    Line.splitParts_source (.inl hb)]
  simp

end MixedScript.Directive

namespace MixedScript.Compile

open MixedScript.Text MixedScript.Layout MixedScript.Scope MixedScript.Directive MixedScript.Line
  MixedScript.Target

theorem sourceCall_toList (d : Directive) (artifact : Path) :
    ∃ rest, (sourceCall d artifact).toList =
      d.indent.toList ++ "source".toList ++ '(' :: '"' :: rest := by
  have hhead : (quoteDouble artifact.text).toList.head? = some '"' := by simp [quoteDouble]
  obtain ⟨q, hq⟩ := List.head?_eq_some_iff.1 hhead
  exact ⟨q ++ (", " ++ quoteDouble d.boundName ++ ")").toList, by simp [sourceCall, hq]⟩

theorem classifyLine_sourceCall {line : String} {d : Directive} (h : parse? line = some d)
    (artifact : Path) (sc : Scope) :
    Line.classifyLine (sourceCall d artifact) [] sc = Line.classifyLine line [] sc := by
  obtain ⟨rest, hrest⟩ := sourceCall_toList d artifact
  have hind : ∀ c ∈ d.indent.toList, isInlineBlank c = true := fun _ hc =>
    isInlineBlank_of_mem_indent h hc
  have hmem : '"' ∈ (sourceCall d artifact).toList.takeWhile (· != '=') := by
    have hne : ∀ a ∈ d.indent.toList, (a != '=') = true := fun a ha => by
      have hb := hind a ha
      exact bne_iff_ne.2 fun hae => absurd (hae ▸ hb) (by decide)
    rw [hrest, List.append_assoc, List.takeWhile_append_of_pos hne]
    simp +decide
  rw [classifyLine_of_parse? h]
  exact Line.classifyLine_source sc hrest hind (.inr rfl) fun _ =>
    Line.assignmentTargets_eq_none_of_mem hmem (by decide) (by decide) (by decide) (by decide)
      (by decide)

theorem classifyLine_expandedLine {l : String} (base : Path) {sp : List Span} {sc : Scope}
    {I : NameSet} (hlead : ∀ n, leadName l = some n → I.contains n = sc.imports.contains n)
    (hsp : (Directive.parse? l).isSome → sp = []) :
    classifyLine (expandedLine base l) sp { sc with imports := I } =
      ((classifyLine l sp sc).1, { (classifyLine l sp sc).2 with imports := I }) := by
  cases hd : Directive.parse? l with
  | none =>
    rw [show expandedLine base l = l by simp [expandedLine, hd]]
    exact classifyLine_withImports (startsWithHostName_withImports hlead)
  | some d =>
    obtain rfl := hsp (by simp [hd])
    have hsource := hlead "source" (Directive.leadName_of_parse? hd)
    rw [show expandedLine base l = sourceCall d (artifactPath (base.join ⟨d.path⟩)) by
      simp [expandedLine, hd], classifyLine_sourceCall hd, Directive.classifyLine_of_parse? hd,
      Directive.classifyLine_of_parse? hd,
      startsWithHostName_withImports fun n hn => by
        obtain rfl : "source" = n := by simpa using hn
        exact hsource]

theorem classifyFrom_map_expandedLine (spans : List Span) (base : Path) {I I₀ : NameSet} :
    ∀ (L : List String) (i : Nat) (sc : Scope), sc.imports = I₀ →
      (∀ k l, L[k]? = some l → (∀ n, leadName l = some n → I.contains n = I₀.contains n) ∧
        ((Directive.parse? l).isSome → spansOn spans (i + k) = [])) →
      (classifyFrom spans i (L.map (expandedLine base)) { sc with imports := I }).map Prod.fst =
        (classifyFrom spans i L sc).map Prod.fst
  | [], _, _, _, _ => rfl
  | l :: L, i, sc, hsc, hL => by
    obtain ⟨hlead, hsp⟩ := hL 0 l rfl
    have hstep : classifyLine (expandedLine base l) (spansOn spans i) { sc with imports := I } =
        ((classifyLine l (spansOn spans i) sc).1,
          { (classifyLine l (spansOn spans i) sc).2 with imports := I }) :=
      classifyLine_expandedLine base (fun n hn => hsc ▸ hlead n hn) hsp
    simp only [List.map_cons, classifyFrom, hstep, List.cons.injEq, true_and]
    exact classifyFrom_map_expandedLine spans base L (i + 1) _
      (by rw [classifyLine_imports, hsc])
      fun k l' hk => by simpa [Nat.add_right_comm, Nat.add_assoc] using hL (k + 1) l' hk

theorem foldl_insertImport (bound : List String) (sc : Scope) :
    bound.foldl (fun s n => { s with imports := s.imports.insert n }) sc =
      { sc with imports := bound.foldl NameSet.insert sc.imports } := by
  induction bound generalizing sc with
  | nil => rfl
  | cons n bound ih => exact ih _

/-- The classes that `emit` gives the statements of an expanded script: in the script's own
scope, with the names its directives bind among the imports. -/
def emittedClasses (src : String) (l : Layout) (expanded bound : List String) :
    List LineClass :=
  (classifyAll (logicalLines ("\n".intercalate expanded)) l.spans
    (bound.foldl (fun s n => { s with imports := s.imports.insert n }) (Scope.ofSource src))).1

theorem emit_eq_transpile (src : String) (l : Layout) (expanded bound : List String) :
    emit src l expanded bound = transpile (logicalLines ("\n".intercalate expanded))
      (emittedClasses src l expanded bound) l.spans := rfl

end MixedScript.Compile

namespace MixedScript

open MixedScript.Layout MixedScript.Compile

/-- The classes that the explanation of a script lists. -/
def explainedClasses (src : String) : List LineClass :=
  (Line.classifyAll (Layout.ofSource src).lines (Layout.ofSource src).spans
    (Scope.ofSource src)).1

theorem explainSource_eq_explain (src : String) (st : Style) :
    explainSource src st = explain (Layout.ofSource src).lines (explainedClasses src)
      (Layout.ofSource src).spans st := rfl

theorem emittedClasses_eq_explainedClasses (t : String) (ht : MarkerFree t.toList)
    {load : Path → CompileM String} {base : Path} {fs fs' : FileTree} {ex bd : List String}
    (hx : expandLines load base (((Layout.ofSource t).text.toList.splitOn '\n').map String.ofList)
      fs = .ok ((ex, bd), fs'))
    (hfree : ∀ l ∈ (Layout.ofSource t).lines, ∀ n ∈ bd, Line.leadName l ≠ some n) :
    emittedClasses t (Layout.ofSource t) ex bd = explainedClasses t := by
  obtain ⟨hE, -⟩ := logicalLines_expandLines hx
  unfold emittedClasses explainedClasses Line.classifyAll
  rw [hE, foldl_insertImport]
  dsimp only
  refine classifyFrom_map_expandedLine _ base _ 0 _ rfl fun k l hk => ⟨fun n hn => ?_, fun hs => ?_⟩
  · have hl : l ∈ (Layout.ofSource t).lines := List.mem_of_getElem? hk
    have hbd : bd.contains n = false := by
      simpa using fun hmem => hfree l hl n hmem hn
    rw [NameSet.contains_foldl_insert, hbd, Bool.or_false]
  · obtain ⟨d, hd⟩ := Option.isSome_iff_exists.1 hs
    have hspare := (shaped_line_spared t ht hk (Directive.parse?_shaped hd)).2
    simpa [spansOn] using fun sp hsp => hspare sp hsp

/-- When no statement starts with a name that a directive binds, the explanation of a script
lists the classes its expanded statements are emitted with, and the program is emitted with
the classes the explanation lists. -/
theorem explainSource_lists_emitted_classes (t : String) (ht : MarkerFree t.toList)
    (load : Path → CompileM String) (base : Path) (fs fs' : FileTree) (ex bd : List String)
    (hx : expandLines load base (((Layout.ofSource t).text.toList.splitOn '\n').map String.ofList)
      fs = .ok ((ex, bd), fs'))
    (hfree : ∀ l ∈ (Layout.ofSource t).lines, ∀ n ∈ bd, Line.leadName l ≠ some n) (st : Style) :
    explainSource t st = explain (Layout.ofSource t).lines
        (emittedClasses t (Layout.ofSource t) ex bd) (Layout.ofSource t).spans st ∧
      emit t (Layout.ofSource t) ex bd = Target.transpile (logicalLines ("\n".intercalate ex))
        (explainedClasses t) (Layout.ofSource t).spans := by
  have h := emittedClasses_eq_explainedClasses t ht hx hfree
  exact ⟨by rw [explainSource_eq_explain, h], by rw [emit_eq_transpile, h]⟩

theorem explainSource_lists_emitted_classes_aliased :
    MarkerFree "source util.sh as u\nutil.greet()".toList ∧
    expandLines (fun _ => pure "pass") ⟨""⟩
      (((Layout.ofSource "source util.sh as u\nutil.greet()").text.toList.splitOn '\n').map
        String.ofList) FileTree.empty =
      .ok ((["source(\".util.py\", \"u\")", "util.greet()"], ["u"]),
        FileTree.empty.set [".util.py"] (.file (Target.importPreamble ++ "\n\n" ++ "pass"))) ∧
    (∀ l ∈ (Layout.ofSource "source util.sh as u\nutil.greet()").lines, ∀ n ∈ ["u"],
      Line.leadName l ≠ some n) ∧
    explainSource "source util.sh as u\nutil.greet()" .plain =
      explain (Layout.ofSource "source util.sh as u\nutil.greet()").lines
        (emittedClasses "source util.sh as u\nutil.greet()"
          (Layout.ofSource "source util.sh as u\nutil.greet()")
          ["source(\".util.py\", \"u\")", "util.greet()"] ["u"])
        (Layout.ofSource "source util.sh as u\nutil.greet()").spans .plain ∧
    emit "source util.sh as u\nutil.greet()" (Layout.ofSource "source util.sh as u\nutil.greet()")
        ["source(\".util.py\", \"u\")", "util.greet()"] ["u"] =
      Target.transpile (logicalLines ("\n".intercalate
          ["source(\".util.py\", \"u\")", "util.greet()"]))
        (explainedClasses "source util.sh as u\nutil.greet()")
        (Layout.ofSource "source util.sh as u\nutil.greet()").spans := by
  have ht : MarkerFree "source util.sh as u\nutil.greet()".toList :=
    markerFree_of_not_mem (by decide)
  have hpieces : ((Layout.ofSource "source util.sh as u\nutil.greet()").text.toList.splitOn
      '\n').map String.ofList = ["source util.sh as u", "util.greet()"] := by decide
  have hd : Directive.parse? "source util.sh as u" = some ⟨"", "util.sh", some "u"⟩ := by rfl
  have hg : Directive.parse? "util.greet()" = none := by rfl
  have ha : artifactPath (Path.join ⟨""⟩ ⟨"util.sh"⟩) = ⟨".util.py"⟩ := by rfl
  have hc : (".util.py").contains '\x00' = false := by simp
  have hw : FileTree.empty.write ⟨".util.py"⟩ (Target.importPreamble ++ "\n\n" ++ "pass") =
      .ok (FileTree.empty.set [".util.py"]
        (.file (Target.importPreamble ++ "\n\n" ++ "pass"))) := by
    simp only [FileTree.write, hc]
    rfl
  have hx : expandLines (fun _ => pure "pass") ⟨""⟩
      (((Layout.ofSource "source util.sh as u\nutil.greet()").text.toList.splitOn '\n').map
        String.ofList) FileTree.empty =
      .ok ((["source(\".util.py\", \"u\")", "util.greet()"], ["u"]),
        FileTree.empty.set [".util.py"] (.file (Target.importPreamble ++ "\n\n" ++ "pass"))) := by
    rw [hpieces]
    simp only [expandLines, hd, ha, writeArtifact]
    simp only [bind, StateT.bind, pure, StateT.pure, get, getThe, MonadStateOf.get, StateT.get,
      set, StateT.set, MonadStateOf.set, Except.bind, Except.pure, hw, hg]
    rfl
  have hlines : (Layout.ofSource "source util.sh as u\nutil.greet()").lines =
      ["source util.sh as u", "util.greet()"] := by decide
  have hfree : ∀ l ∈ (Layout.ofSource "source util.sh as u\nutil.greet()").lines, ∀ n ∈ ["u"],
      Line.leadName l ≠ some n := by
    have hall : (["source util.sh as u", "util.greet()"].all fun l =>
        ["u"].all fun n => Line.leadName l != some n) = true := by decide
    rw [hlines]
    intro l hl n hn
    simpa using List.all_eq_true.1 (List.all_eq_true.1 hall l hl) n hn
  exact ⟨ht, hx, hfree,
    explainSource_lists_emitted_classes _ ht _ _ _ _ _ _ hx hfree .plain⟩

end MixedScript

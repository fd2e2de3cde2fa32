import MixedScript.Proofs.Compile.Explained
import MixedScript.Proofs.Target.Emit

/-!
# What a directive compiles to

A directive line becomes the call `source("<artifact>", "<name>")` with its indentation. Host
code or directive, the call is emitted as written and restored unchanged when the artifact's
path holds no `$` and no marker, whatever names the classifier knows.
-/

namespace MixedScript

open MixedScript.Text MixedScript.Layout MixedScript.Target MixedScript.Directive

namespace Layout

theorem unfoldChars_append_of_not_mem : ∀ {x : List Char}, '\uE000' ∉ x → ∀ y : List Char,
    unfoldChars (x ++ y) = x ++ unfoldChars y
  | [], _, y => rfl
  | c :: x, hx, y => by
    have hc : ¬ markerChars <+: c :: (x ++ y) := fun hp => by
      rw [markerChars_eq_cons, List.cons_prefix_cons] at hp
      exact hx (hp.1 ▸ List.mem_cons_self)
    rw [List.cons_append, unfoldChars, if_neg (mt List.isPrefixOf_iff_prefix.1 hc),
      unfoldChars_append_of_not_mem (fun hm => hx (List.mem_cons_of_mem c hm)) y, List.cons_append]

theorem unfoldChars_of_markerFree : ∀ {x : List Char}, MarkerFree x → unfoldChars x = x
  | [], _ => unfoldChars_nil
  | c :: x, hx => by
    have hc : ¬ markerChars <+: c :: x := fun hp => hx hp.isInfix
    rw [unfoldChars, if_neg (mt List.isPrefixOf_iff_prefix.1 hc), unfoldChars_of_markerFree hx.of_cons]

section Escape

-- How a character may be written inside a literal: as itself, or as nonempty text without
-- marker characters.
variable {f : Char → List Char} (hf : ∀ c, f c = [c] ∨ (f c ≠ [] ∧ ∀ x ∈ f c, x ∉ markerChars))
include hf

theorem prefix_of_prefix_flatMap : ∀ {w s : List Char}, (∀ x ∈ w, x ∈ markerChars) →
    w <+: s.flatMap f → w <+: s
  | [], _, _, _ => List.nil_prefix
  | x :: w, [], _, h => absurd (List.prefix_nil.1 h) (List.cons_ne_nil x w)
  | x :: w, c :: s, hw, h => by
    rw [List.flatMap_cons] at h
    rcases hf c with hc | ⟨hne, hout⟩
    · rw [hc, List.singleton_append, List.cons_prefix_cons] at h
      obtain ⟨rfl, h⟩ := h
      exact List.cons_prefix_cons.2
        ⟨rfl, prefix_of_prefix_flatMap (fun y hy => hw y (List.mem_cons_of_mem x hy)) h⟩
    · obtain ⟨y, ys, hys⟩ := List.exists_cons_of_ne_nil hne
      rw [hys, List.cons_append, List.cons_prefix_cons] at h
      exact absurd (h.1 ▸ hw x List.mem_cons_self) (hout y (hys ▸ List.mem_cons_self))

theorem markerFree_flatMap : ∀ {s : List Char}, MarkerFree s → MarkerFree (s.flatMap f)
  | [], _ => fun hm => absurd (List.infix_nil.1 hm) (by decide)
  | c :: s, hs => by
    rintro ⟨p, q, hpq⟩
    rw [List.flatMap_cons, List.append_assoc] at hpq
    rcases List.append_eq_append_iff.1 hpq with ⟨a, hfc, hrest⟩ | ⟨a, rfl, hrest⟩
    · -- The marker starts inside what `c` is written as, so `c` is U+E000 written as itself.
      cases a with
      | nil =>
        exact markerFree_flatMap hs.of_cons ⟨[], q, by simpa using hrest⟩
      | cons y ys =>
        have hy : y ∈ markerChars := by
          rw [markerChars_eq_cons, List.cons_append, List.cons_append] at hrest
          rw [← (List.cons.inj hrest).1]
          exact List.mem_cons_self
        rcases hf c with hc | ⟨-, hout⟩
        · obtain ⟨rfl, rfl, rfl⟩ : p = [] ∧ y = c ∧ ys = [] := by
            rw [hc] at hfc
            cases p with
            | nil => simpa [eq_comm] using hfc
            | cons z p => simp at hfc
          rw [markerChars_eq_cons, List.cons_append, List.singleton_append] at hrest
          obtain ⟨rfl, htail⟩ := List.cons.inj hrest
          have hw : ∀ x ∈ markerChars.tail, x ∈ markerChars := fun x hx =>
            by rw [markerChars_eq_cons]; exact List.mem_cons_of_mem _ hx
          have hpre := prefix_of_prefix_flatMap hf hw ⟨q, htail⟩
          apply hs
          rw [markerChars_eq_cons]
          exact (List.cons_prefix_cons.2 ⟨rfl, hpre⟩).isInfix
        · exact hout y (hfc ▸ List.mem_append_right p List.mem_cons_self) hy
    · exact markerFree_flatMap hs.of_cons ⟨a, q, by rw [List.append_assoc, hrest]⟩

end Escape

end Layout

/-- How `quoteDouble` writes a character. -/
def escapeDouble (c : Char) : List Char :=
  (match c with
    | '\\' => "\\\\"
    | '"' => "\\\""
    | '\n' => "\\n"
    | c => c.toString).toList

theorem quoteDouble_toList (s : String) :
    (quoteDouble s).toList = '"' :: s.toList.flatMap escapeDouble ++ ['"'] := by
  simp only [quoteDouble, String.toList_append, String.toList_join, List.flatMap_map]
  rfl

theorem mem_escapeDouble {c x : Char} (h : c ∈ escapeDouble x) :
    c = x ∨ c = '\\' ∨ c = '"' ∨ c = 'n' := by
  unfold escapeDouble at h
  split at h <;> simp at h <;> tauto

theorem not_mem_quoteDouble {c : Char} {s : String} (hc : c ∉ s.toList) (h₁ : c ≠ '\\')
    (h₂ : c ≠ '"') (h₃ : c ≠ 'n') : c ∉ (quoteDouble s).toList := by
  rw [quoteDouble_toList]
  simp only [List.mem_cons, List.mem_append, List.mem_flatMap, not_or, not_exists, not_and]
  refine ⟨⟨h₂, fun x hx he => ?_⟩, h₂, List.not_mem_nil⟩
  rcases mem_escapeDouble he with rfl | rfl | rfl | rfl
  exacts [hc hx, h₁ rfl, h₂ rfl, h₃ rfl]

theorem escape_not_mem_markerChars {x : Char} (h : x = '\\' ∨ x = '"' ∨ x = 'n') :
    x ∉ markerChars := by
  rcases h with rfl | rfl | rfl <;> decide

theorem markerFree_escapeDouble {s : List Char} (hs : MarkerFree s) :
    MarkerFree (s.flatMap escapeDouble) := by
  refine markerFree_flatMap (fun c => ?_) hs
  unfold escapeDouble
  split
  case h_4 => exact .inl (by simp)
  all_goals exact .inr ⟨by simp, fun x hx => escape_not_mem_markerChars (by simp at hx; tauto)⟩

namespace Directive

theorem mem_of_mem_splitOn {a c : Char} :
    ∀ {xs s : List Char}, s ∈ xs.splitOn a → c ∈ s → c ∈ xs
  | [], s, h, hc => by simp_all
  | x :: xs, s, h, hc => by
    rw [List.splitOn_cons_eq_if_modifyHead] at h
    by_cases hx : (x == a) = true
    · rw [if_pos hx] at h
      rcases List.mem_cons.1 h with rfl | h
      · simp at hc
      · exact List.mem_cons_of_mem x (mem_of_mem_splitOn h hc)
    · rw [if_neg hx] at h
      obtain ⟨r, rs, hr⟩ := List.exists_cons_of_ne_nil (List.splitOn_ne_nil a xs)
      rw [hr, List.modifyHead_cons] at h
      rcases List.mem_cons.1 h with rfl | h
      · rcases List.mem_cons.1 hc with rfl | hc
        · exact List.mem_cons_self
        · exact List.mem_cons_of_mem x (mem_of_mem_splitOn (hr ▸ List.mem_cons_self) hc)
      · exact List.mem_cons_of_mem x (mem_of_mem_splitOn (hr ▸ List.mem_cons_of_mem r h) hc)

theorem exists_identAt_of_tail? {rest : List Char} {x : Option (List Char)}
    (h : tail? rest = some x) : ∀ name, x = some name → ∃ r, name = Scope.identAt r := by
  unfold tail? at h
  dsimp only at h
  split at h
  · rename_i name' hname
    split_ifs at hname
    cases hname
    cases h
    rintro name ⟨⟩
    exact ⟨_, rfl⟩
  · split_ifs at h
    cases h
    rintro name ⟨⟩

theorem plain_of_parse? {line : String} {d : Directive} (h : parse? line = some d) :
    Plain d.indent.toList ∧ Plain d.path.toList ∧ ∀ a, d.alias? = some a → Plain a.toList := by
  unfold parse? at h
  dsimp only at h
  split_ifs at h with h₁ h₂
  simp only [Bool.and_eq_true, decide_eq_true_eq] at h₂
  obtain ⟨x, hx, rfl⟩ := Option.map_eq_some_iff.1 h
  refine ⟨by simpa using plain_takeWhile_isInlineBlank _, by simpa using plain_of_isScriptPath h₂.2,
    fun a ha => ?_⟩
  obtain ⟨name, hname, rfl⟩ := Option.map_eq_some_iff.1 ha
  obtain ⟨r, rfl⟩ := exists_identAt_of_tail? hx name hname
  simpa using plain_identAt r

theorem plain_boundName {line : String} {d : Directive} (h : parse? line = some d) :
    Plain d.boundName.toList := by
  obtain ⟨-, hpath, halias⟩ := plain_of_parse? h
  unfold boundName
  split
  · exact halias _ ‹_›
  · obtain ⟨r, rs, hr⟩ := List.exists_cons_of_ne_nil (List.splitOn_ne_nil '/' d.path.toList)
    intro c hc
    rw [String.toList_ofList] at hc
    have hfile : (d.path.toList.splitOn '/').getLastD [] ∈ d.path.toList.splitOn '/' := by
      rw [hr, List.getLastD_cons]
      exact List.getLastD_mem_cons
    exact hpath c (mem_of_mem_splitOn hfile (List.takeWhile_subset _ hc))

theorem isWordChar_marker : Text.isWordChar '\uE000' = false := by
  rw [Text.isWordChar, if_neg (by decide), Text.inRanges, ← Array.any_toList]
  decide +kernel

theorem isLeadChar_marker : isLeadChar '\uE000' = false := by
  simp only [isLeadChar, isSegmentChar, isWordChar_marker]
  decide

theorem not_mem_of_plain {w : List Char} {c : Char} (hw : Plain w) (hc : isLeadChar c = false) :
    c ∉ w :=
  fun hm => absurd (hw c hm) (by simp [hc])

end Directive

namespace Compile

variable {line : String} {d : Directive} {a : Path}

theorem sourceCall_toList_eq (d : Directive) (a : Path) :
    (sourceCall d a).toList = d.indent.toList ++ "source(\"".toList ++
      a.text.toList.flatMap escapeDouble ++ '"' ::
        ((", \"".toList ++ d.boundName.toList.flatMap escapeDouble) ++ "\")".toList) := by
  simp [sourceCall, quoteDouble_toList]

theorem dollar_not_mem_sourceCall (hd : parse? line = some d) (ha : '$' ∉ a.text.toList) :
    '$' ∉ (sourceCall d a).toList := by
  obtain ⟨hind, -, -⟩ := plain_of_parse? hd
  have hname : '$' ∉ d.boundName.toList := not_mem_of_plain (plain_boundName hd) (by decide)
  simp only [sourceCall, String.toList_append, List.mem_append, not_or]
  exact ⟨⟨⟨⟨⟨not_mem_of_plain hind (by decide), by decide⟩,
    not_mem_quoteDouble ha (by decide) (by decide) (by decide)⟩, by decide⟩,
    not_mem_quoteDouble hname (by decide) (by decide) (by decide)⟩, by decide⟩

theorem restore_sourceCall (hd : parse? line = some d) (ha : MarkerFree a.text.toList) :
    restore (sourceCall d a) = sourceCall d a := by
  obtain ⟨hind, -, -⟩ := plain_of_parse? hd
  have hname : '\uE000' ∉ d.boundName.toList :=
    not_mem_of_plain (plain_boundName hd) isLeadChar_marker
  have hlead : '\uE000' ∉ d.indent.toList ++ "source(\"".toList := by
    simp only [List.mem_append, not_or]
    exact ⟨not_mem_of_plain hind isLeadChar_marker, by simp⟩
  have htail : '\uE000' ∉ (", \"".toList ++ d.boundName.toList.flatMap escapeDouble) ++
      "\")".toList := by
    simp only [List.mem_append, List.mem_flatMap, not_or, not_exists, not_and]
    refine ⟨⟨by simp, fun x hx he => ?_⟩, by simp⟩
    rcases mem_escapeDouble he with rfl | h | h | h
    · exact hname hx
    all_goals simp at h
  rw [restore, sourceCall_toList_eq, List.append_assoc, unfoldChars_append_of_not_mem hlead,
    unfoldChars_append_cons (by decide), unfoldChars_of_markerFree (markerFree_escapeDouble ha),
    ← List.append_nil (_ ++ "\")".toList), unfoldChars_append_of_not_mem htail, unfoldChars_nil,
    List.append_nil, ← List.append_assoc, ← sourceCall_toList_eq, String.ofList_toList]

theorem verbatim_sourceCall (hd : parse? line = some d) (ha : '$' ∉ a.text.toList) (sc : Scope) :
    Verbatim (sourceCall d a) (Line.classifyLine (sourceCall d a) [] sc).1 := by
  rw [classifyLine_sourceCall hd, Directive.classifyLine_of_parse? hd]
  split
  · exact plainHost_of_dollar_not_mem (dollar_not_mem_sourceCall hd ha)
  · obtain ⟨rest, hrest⟩ := sourceCall_toList d a
    rw [Verbatim, Line.trimStart_source hrest fun _ hc => isInlineBlank_of_mem_indent hd hc]
    exact ⟨'"' :: rest, rfl⟩

end Compile

namespace Line

theorem getElem?_classifyFrom {spans : List Span} :
    ∀ {i : Nat} {L : List String} {sc : Scope} {k : Nat} {p : LineClass × Scope},
      (classifyFrom spans i L sc)[k]? = some p →
      ∃ l sc', L[k]? = some l ∧ p = classifyLine l (Layout.spansOn spans (i + k)) sc'
  | _, [], _, _, _, h => by simp [classifyFrom] at h
  | i, l :: L, sc, 0, p, h => by
    simp only [classifyFrom, List.getElem?_cons_zero, Option.some.injEq] at h
    exact ⟨l, sc, rfl, h.symm⟩
  | i, l :: L, sc, k + 1, p, h => by
    simp only [classifyFrom, List.getElem?_cons_succ] at h
    obtain ⟨l', sc', hl', hp⟩ := getElem?_classifyFrom h
    exact ⟨l', sc', hl', by rw [hp, show i + (k + 1) = i + 1 + k by omega]⟩

end Line

namespace Compile

theorem compileWith_eq_ok {load : Path → CompileM String} {t : String} {base : Path}
    {fs fs' : FileTree} {out : String} (h : compileWith load t base fs = .ok (out, fs')) :
    ∃ ex bd, expandLines load base (((Layout.ofSource t).text.toList.splitOn '\n').map
      String.ofList) fs = .ok ((ex, bd), fs') ∧ emit t (Layout.ofSource t) ex bd = .ok out := by
  obtain ⟨⟨ex, bd⟩, fs₁, hx, -⟩ := bind_eq_ok h
  rw [compileWith_eq_emit hx] at h
  cases hemit : emit t (Layout.ofSource t) ex bd with
  | error e =>
    rw [hemit] at h
    cases h
  | ok o =>
    rw [hemit] at h
    cases h
    exact ⟨ex, bd, hx, hemit⟩

/-- In a successful compile of a script without markers, the program is its statements, each
followed by a newline, and the statement of every directive line whose artifact path holds no
`$` and no marker is exactly the line's call of `source`, whatever names the classifier knows. -/
theorem compileWith_keeps_sourceCall (t : String) (ht : MarkerFree t.toList)
    (load : Path → CompileM String) (base : Path) (fs fs' : FileTree) (out : String)
    (h : compileWith load t base fs = .ok (out, fs')) :
    ∃ E : List String, E.length = (Layout.ofSource t).lines.length ∧
      out = String.join (E.map (· ++ "\n")) ∧
      ∀ (i : Nat) l d, (Layout.ofSource t).lines[i]? = some l → Directive.parse? l = some d →
        '$' ∉ (artifactPath (base.join ⟨d.path⟩)).text.toList →
        MarkerFree (artifactPath (base.join ⟨d.path⟩)).text.toList →
        E[i]? = some (sourceCall d (artifactPath (base.join ⟨d.path⟩))) := by
  obtain ⟨ex, bd, hx, hemit⟩ := compileWith_eq_ok h
  obtain ⟨hE, -⟩ := logicalLines_expandLines hx
  rw [emit_eq_transpile] at hemit
  obtain ⟨-, body, hbody, rfl⟩ := transpile_eq_ok hemit
  obtain ⟨E, hlen, rfl, hEk⟩ := emitFrom_eq_ok hbody
  have hclasses : (emittedClasses t (Layout.ofSource t) ex bd).length =
      (Layout.ofSource t).lines.length := by
    simp [emittedClasses, Line.classifyAll, Line.length_classifyFrom, hE, Layout.lines]
  have hstmts : (logicalLines ("\n".intercalate ex)).length = (Layout.ofSource t).lines.length := by
    simp [hE, Layout.lines]
  refine ⟨E.map restore, by simp [hlen, hclasses, hstmts], ?_, fun i l d hl hd hdollar hfree => ?_⟩
  · rw [restore_join_lines, List.map_map]
    rfl
  -- The statement at `i` is the call, and its class is the classifier's in some scope.
  have hcall : (logicalLines ("\n".intercalate ex))[i]? =
      some (sourceCall d (artifactPath (base.join ⟨d.path⟩))) := by
    rw [hE, List.getElem?_map, ← Layout.lines, hl]
    simp [expandedLine, hd]
  have hi : i < E.length := by
    have := (List.getElem?_eq_some_iff.1 hl).1
    omega
  obtain ⟨p, hp⟩ : ∃ p, (Line.classifyFrom (Layout.ofSource t).spans 0
      (logicalLines ("\n".intercalate ex))
      (bd.foldl (fun s n => { s with imports := s.imports.insert n }) (Scope.ofSource t)))[i]? =
        some p := by
    refine ⟨_, List.getElem?_eq_getElem ?_⟩
    rw [Line.length_classifyFrom, hstmts]
    omega
  obtain ⟨l', sc, hl', rfl⟩ := Line.getElem?_classifyFrom hp
  rw [hcall, Option.some.injEq] at hl'
  subst hl'
  have hnone : spansOn (Layout.ofSource t).spans i = [] := by
    have hfar := (shaped_line_spared t ht hl (Directive.parse?_shaped hd)).2
    simpa [spansOn] using fun sp hsp => hfar sp hsp
  have hc : (emittedClasses t (Layout.ofSource t) ex bd)[i]? =
      some (Line.classifyLine (sourceCall d (artifactPath (base.join ⟨d.path⟩))) [] sc).1 := by
    rw [emittedClasses, Line.classifyAll, List.getElem?_map, hp, Nat.zero_add, hnone]
    rfl
  have he := hEk i E[i] _ _ (List.getElem?_eq_getElem hi) hcall hc
  rw [Nat.zero_add, emitLine_of_verbatim (verbatim_sourceCall hd hdollar sc)] at he
  rw [List.getElem?_map, List.getElem?_eq_getElem hi, ← Except.ok.inj he, Option.map_some,
    restore_sourceCall hd hfree]

theorem compileWith_keeps_sourceCall_lib :
    MarkerFree "source lib.sh\nx = 1".toList ∧
    compileWith (fun _ => pure "pass") "source lib.sh\nx = 1" ⟨""⟩ FileTree.empty =
      .ok ("source(\".lib.py\", \"lib\")\nx = 1\n",
        FileTree.empty.set [".lib.py"] (.file (Target.importPreamble ++ "\n\n" ++ "pass"))) ∧
    ∃ E : List String, E.length = (Layout.ofSource "source lib.sh\nx = 1").lines.length ∧
      "source(\".lib.py\", \"lib\")\nx = 1\n" = String.join (E.map (· ++ "\n")) ∧
      ∀ (i : Nat) l d, (Layout.ofSource "source lib.sh\nx = 1").lines[i]? = some l →
        Directive.parse? l = some d →
        '$' ∉ (artifactPath (Path.join ⟨""⟩ ⟨d.path⟩)).text.toList →
        MarkerFree (artifactPath (Path.join ⟨""⟩ ⟨d.path⟩)).text.toList →
        E[i]? = some (sourceCall d (artifactPath (Path.join ⟨""⟩ ⟨d.path⟩))) := by
  have ht : MarkerFree "source lib.sh\nx = 1".toList := markerFree_of_not_mem (by decide)
  have hpieces : ((Layout.ofSource "source lib.sh\nx = 1").text.toList.splitOn '\n').map
      String.ofList = ["source lib.sh", "x = 1"] := by decide
  have hd : Directive.parse? "source lib.sh" = some ⟨"", "lib.sh", none⟩ := by rfl
  have hg : Directive.parse? "x = 1" = none := by rfl
  have ha : artifactPath (Path.join ⟨""⟩ ⟨"lib.sh"⟩) = ⟨".lib.py"⟩ := by rfl
  have hc : (".lib.py").contains '\x00' = false := by simp
  have hw : FileTree.empty.write ⟨".lib.py"⟩ (Target.importPreamble ++ "\n\n" ++ "pass") =
      .ok (FileTree.empty.set [".lib.py"] (.file (Target.importPreamble ++ "\n\n" ++ "pass"))) := by
    simp only [FileTree.write, hc]
    rfl
  have hx : expandLines (fun _ => pure "pass") ⟨""⟩
      (((Layout.ofSource "source lib.sh\nx = 1").text.toList.splitOn '\n').map String.ofList)
      FileTree.empty =
      .ok ((["source(\".lib.py\", \"lib\")", "x = 1"], ["lib"]),
        FileTree.empty.set [".lib.py"] (.file (Target.importPreamble ++ "\n\n" ++ "pass"))) := by
    rw [hpieces]
    simp only [expandLines, hd, ha, writeArtifact]
    simp only [bind, StateT.bind, pure, StateT.pure, get, getThe, MonadStateOf.get, StateT.get,
      set, StateT.set, MonadStateOf.set, Except.bind, Except.pure, hw, hg]
    rfl
  have hout : compileWith (fun _ => pure "pass") "source lib.sh\nx = 1" ⟨""⟩ FileTree.empty =
      .ok ("source(\".lib.py\", \"lib\")\nx = 1\n",
        FileTree.empty.set [".lib.py"] (.file (Target.importPreamble ++ "\n\n" ++ "pass"))) := by
    have he : emit "source lib.sh\nx = 1" (Layout.ofSource "source lib.sh\nx = 1")
        ["source(\".lib.py\", \"lib\")", "x = 1"] ["lib"] =
          .ok "source(\".lib.py\", \"lib\")\nx = 1\n" := by
      decide +kernel
    rw [compileWith_eq_emit hx, he]
  exact ⟨ht, hout, compileWith_keeps_sourceCall _ ht _ _ _ _ _ hout⟩

end Compile

end MixedScript

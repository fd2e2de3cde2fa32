import Mathlib.Data.List.Chain
import MixedScript.Proofs.Compile.Outcome
import MixedScript.Proofs.Compile.Session
import MixedScript.Proofs.FileTree.Writes

/-!
# The import graph and the nesting limit

A script's directives are the edges of an import graph. When every script it reaches is ready
to compile, a compile of a script file succeeds exactly when no directive path returns to a
script on it and none is longer than the limit (`compile_file_ok_iff_graph_fits`), by induction
on the levels left (`followsGraph`).
-/

namespace MixedScript
namespace Compile

open MixedScript.Layout

section Expansion

variable {load : Path → CompileM String} {base : Path} {Inv : FileTree → Prop}

theorem expandLines_outcome {lines : List String}
    (hload : ∀ d ∈ lines.filterMap Directive.parse?, ∀ fs₁ b fs₂, Inv fs₁ →
      load (base.join ⟨d.path⟩) fs₁ = .ok (b, fs₂) → Inv fs₂)
    (hwrite : ∀ d ∈ lines.filterMap Directive.parse?, ∀ fs₁ t, Inv fs₁ →
      ∃ fs₂, writeArtifact (artifactPath (base.join ⟨d.path⟩)) t fs₁ = .ok ((), fs₂) ∧ Inv fs₂)
    {fs : FileTree} (hfs : Inv fs) :
    (∃ r fs', expandLines load base lines fs = .ok (r, fs') ∧ Inv fs' ∧
      ∀ d ∈ lines.filterMap Directive.parse?, ∃ fs₁, Inv fs₁ ∧
        ∃ b fs₂, load (base.join ⟨d.path⟩) fs₁ = .ok (b, fs₂)) ∨
    (∃ e, expandLines load base lines fs = .error e ∧
      ∃ d ∈ lines.filterMap Directive.parse?, ∃ fs₁, Inv fs₁ ∧
        load (base.join ⟨d.path⟩) fs₁ = .error e) := by
  induction lines generalizing fs with
  | nil => exact .inl ⟨_, fs, rfl, hfs, by simp⟩
  | cons line rest ih =>
    cases hd : Directive.parse? line with
    | none =>
      have hdir : (line :: rest).filterMap Directive.parse? = rest.filterMap Directive.parse? := by
        simp [hd]
      rw [hdir] at hload hwrite ⊢
      rcases ih hload hwrite hfs with ⟨r, fs', hr, hi, hall⟩ | ⟨e, he, hex⟩
      · refine .inl ⟨(line :: r.1, r.2), fs', ?_, hi, hall⟩
        simp only [expandLines, hd, bind_apply, hr]
        rfl
      · refine .inr ⟨e, ?_, hex⟩
        simp only [expandLines, hd, bind_apply, he]
    | some d =>
      have hdir :
          (line :: rest).filterMap Directive.parse? = d :: rest.filterMap Directive.parse? :=
        List.filterMap_cons_some hd
      rw [hdir] at hload hwrite ⊢
      have hrest_load := fun d' (h : d' ∈ rest.filterMap Directive.parse?) =>
        hload d' (List.mem_cons_of_mem d h)
      have hrest_write := fun d' (h : d' ∈ rest.filterMap Directive.parse?) =>
        hwrite d' (List.mem_cons_of_mem d h)
      cases hl : load (base.join ⟨d.path⟩) fs with
      | error e =>
        refine .inr ⟨e, ?_, d, List.mem_cons_self, fs, hfs, hl⟩
        simp only [expandLines, hd, bind_apply, hl]
      | ok p =>
        obtain ⟨body, fs₁⟩ := p
        have hi₁ := hload d List.mem_cons_self fs body fs₁ hfs hl
        obtain ⟨fs₂, hw, hi₂⟩ :=
          hwrite d List.mem_cons_self fs₁ (Target.importPreamble ++ "\n\n" ++ body) hi₁
        rcases ih hrest_load hrest_write hi₂ with ⟨r, fs', hr, hi, hall⟩ | ⟨e, he, d', hd', hex⟩
        · refine .inl
            ⟨(sourceCall d (artifactPath (base.join ⟨d.path⟩)) :: r.1, d.boundName :: r.2),
              fs', ?_, hi, ?_⟩
          · simp only [expandLines, hd, bind_apply, hl, hw, hr]
            rfl
          · intro d' hd'
            rcases List.mem_cons.1 hd' with rfl | hd'
            · exact ⟨fs, hfs, body, fs₁, hl⟩
            · exact hall d' hd'
        · refine .inr ⟨e, ?_, d', List.mem_cons_of_mem d hd', hex⟩
          simp only [expandLines, hd, bind_apply, hl, hw, he]

end Expansion

/-- The lines of a laid-out script as its compile expands them, blank ones included. -/
def scriptLines (text : String) : List String :=
  ((Layout.ofSource text).text.toList.splitOn '\n').map String.ofList

/-- The directives of a script: one for each of its logical lines that reads as one. -/
def directives (text : String) : List Directive :=
  (logicalLines (Layout.ofSource text).text).filterMap Directive.parse?

theorem directives_eq (text : String) :
    directives text = (scriptLines text).filterMap Directive.parse? := by
  rw [directives, logicalLines_eq_filter]
  exact Directive.filterMap_filter_nonblank (fun _ => Directive.parse?_eq_none_of_isBlankLine)
    (scriptLines text)

/-- The path by which a directive of the script at `c` names a script. -/
def directivePath (c : Location) (d : Directive) : Path :=
  (baseOf c).join ⟨d.path⟩

/-- The script at `c` has a directive that resolves to `c'`: an edge of the import graph. -/
def Sources (fs : FileTree) (c c' : Location) : Prop :=
  ∃ t, fs.read c = .ok t ∧ ∃ d ∈ directives t, fs.canonicalize (directivePath c d) = .ok c'

/-- No directive path from `root` comes back to a script it has passed. -/
def ImportsAcyclic (fs : FileTree) (root : Location) : Prop :=
  ∀ v, List.IsChain (Sources fs) (root :: v) → (root :: v).Nodup

/-- Every directive path from `root` has at most `m` edges. -/
def ImportDepthAtMost (fs : FileTree) (root : Location) (m : Nat) : Prop :=
  ∀ v, List.IsChain (Sources fs) (root :: v) → v.length ≤ m

/-- Every directive path from `c`, with the scripts `s` being compiled below it, has at most `r`
edges and visits no script twice. -/
def ImportsFit (fs : FileTree) (s : List Location) (c : Location) (r : Nat) : Prop :=
  ∀ v, List.IsChain (Sources fs) (c :: v) → v.length ≤ r ∧ (s ++ c :: v).Nodup

/-- What the compile of the script at `c`, whose text is `t`, needs of the tree besides the shape
of its imports: no marker and no open substitution in it, a script for each of its directives,
and for each an artifact that can be written, with any text, without changing a script of
`keep`. -/
structure ScriptOk (fs : FileTree) (keep : Location → Prop) (c : Location) (t : String) : Prop where
  read : fs.read c = .ok t
  markerFree : MarkerFree t.toList
  finished : (Layout.ofSource t).unterminated? = none
  resolves : ∀ d ∈ directives t, ∃ c', fs.canonicalize (directivePath c d) = .ok c'
  writes : ∀ d ∈ directives t, ∀ a, ∃ fs', fs.write (artifactPath (directivePath c d)) a = .ok fs' ∧
    ∀ c', keep c' → fs'.read c' = fs.read c'

theorem ScriptOk.of_directives_eq_nil {fs : FileTree} {keep : Location → Prop} {c : Location}
    {t : String} (hread : fs.read c = .ok t) (hd : directives t = []) (hm : MarkerFree t.toList)
    (hu : (Layout.ofSource t).unterminated? = none) : ScriptOk fs keep c t :=
  ⟨hread, hm, hu, fun d h => by simp [hd] at h, fun d h => by simp [hd] at h⟩

/-- A tree that a compile can have reached from `fs`: files written, none at a script of `keep`. -/
structure Reached (fs : FileTree) (keep : Location → Prop) (fs₁ : FileTree) : Prop where
  written : fs.Written fs₁
  scripts : ∀ c, keep c → fs₁.read c = fs.read c

theorem Reached.refl (fs : FileTree) (keep : Location → Prop) : Reached fs keep fs :=
  ⟨FileTree.Written.refl fs, fun _ _ => rfl⟩

theorem Reached.writeArtifact {fs fs₁ : FileTree} {keep : Location → Prop} {a : Path}
    (hr : Reached fs keep fs₁)
    (hw : ∀ t, ∃ fs', fs.write a t = .ok fs' ∧ ∀ c, keep c → fs'.read c = fs.read c) (t : String) :
    ∃ fs₂, writeArtifact a t fs₁ = .ok ((), fs₂) ∧ Reached fs keep fs₂ := by
  obtain ⟨l, hnk, hl, hd, hall⟩ := FileTree.write_outside hw
  have hd₁ : fs₁.find? l ≠ some .dir := fun h => hd ((hr.written.dir_iff l).1 h)
  refine ⟨fs₁.set l (.file t), by rw [writeArtifact_apply, hall fs₁ hr.written t], ?_⟩
  refine ⟨hr.written.trans (FileTree.Written.set t hl hd₁), fun c hc => ?_⟩
  have hcl : c ≠ l := fun h => hnk (h ▸ hc)
  rw [FileTree.read_set_ne _ _ hl hcl]
  exact hr.scripts c hc

theorem compileWith_outcome {load : Path → CompileM String} {src : String} {base : Path}
    {Inv : FileTree → Prop} (hs : MarkerFree src.toList)
    (hu : (Layout.ofSource src).unterminated? = none)
    (hload : ∀ d ∈ directives src, ∀ fs₁ b fs₂, Inv fs₁ →
      load (base.join ⟨d.path⟩) fs₁ = .ok (b, fs₂) → Inv fs₂)
    (hwrite : ∀ d ∈ directives src, ∀ fs₁ t, Inv fs₁ →
      ∃ fs₂, writeArtifact (artifactPath (base.join ⟨d.path⟩)) t fs₁ = .ok ((), fs₂) ∧ Inv fs₂)
    {fs : FileTree} (hfs : Inv fs) :
    (∃ out fs', compileWith load src base fs = .ok (out, fs') ∧ Inv fs' ∧
      ∀ d ∈ directives src, ∃ fs₁, Inv fs₁ ∧
        ∃ b fs₂, load (base.join ⟨d.path⟩) fs₁ = .ok (b, fs₂)) ∨
    (∃ e, compileWith load src base fs = .error e ∧
      ∃ d ∈ directives src, ∃ fs₁, Inv fs₁ ∧ load (base.join ⟨d.path⟩) fs₁ = .error e) := by
  rw [directives_eq] at hload hwrite ⊢
  rcases expandLines_outcome hload hwrite hfs with ⟨⟨ex, bd⟩, fs', hx, hi, hall⟩ | ⟨e, he, hex⟩
  · obtain ⟨out, hout⟩ := compileWith_ok hs hx hu
    exact .inl ⟨out, fs', hout, hi, hall⟩
  · refine .inr ⟨e, ?_, hex⟩
    change (expandLines load base (scriptLines src) >>= _) fs = _
    rw [bind_apply, he]

section Graph

variable {fs : FileTree} {root : Location} {m : Nat}

/-- How a compile of the scripts reachable from `root` may stop: at the nesting limit, or at a
directive path from `root` that comes back to a script it passed, reported as its scripts. -/
def StopsInGraph (fs : FileTree) (root : Location) (m : Nat) (e : CompileError) : Prop :=
  (∃ q, e = .depthExceeded m q) ∨
    ∃ w, List.IsChain (Sources fs) w ∧ w.head? = some root ∧
      (∃ x ∈ w.dropLast, w.getLast? = some x) ∧ e = .cyclic (w.map FileTree.pathOf)

theorem reaches_of_walk {s : List Location} {c : Location}
    (hw : List.IsChain (Sources fs) (s ++ [c]))
    (hh : (s ++ [c]).head? = some root) : Relation.ReflTransGen (Sources fs) root c := by
  have h := List.relationReflTransGen_of_exists_isChain _ hw (by simp)
  rw [List.getLast_append_singleton] at h
  have hroot : (s ++ [c]).head (by simp) = root := by
    rw [← Option.some_inj, ← List.head?_eq_some_head, hh]
  rwa [hroot] at h

theorem not_mem_of_importsFit {s : List Location} {c : Location} {r : Nat}
    (h : ImportsFit fs s c r) : c ∉ s := by
  have hnd := (h [] (List.isChain_singleton c)).2
  rw [List.nodup_append] at hnd
  exact fun hc => hnd.2.2 c hc c (by simp) rfl

theorem importsFit_zero_iff {s : List Location} {c : Location} :
    ImportsFit fs s c 0 ↔ (s ++ [c]).Nodup ∧ ∀ c', ¬ Sources fs c c' := by
  constructor
  · intro h
    refine ⟨by simpa using (h [] (List.isChain_singleton c)).2, fun c' hc' => ?_⟩
    have hlen := (h [c'] (List.isChain_pair.2 hc')).1
    simp at hlen
  · rintro ⟨hnd, hno⟩ v hv
    cases v with
    | nil => exact ⟨le_rfl, by simpa using hnd⟩
    | cons c' v => exact absurd (List.isChain_cons_cons.1 hv).1 (hno c')

theorem importsFit_succ_iff {s : List Location} {c : Location} {r : Nat} :
    ImportsFit fs s c (r + 1) ↔
      (s ++ [c]).Nodup ∧ ∀ c', Sources fs c c' → ImportsFit fs (s ++ [c]) c' r := by
  constructor
  · intro h
    refine ⟨by simpa using (h [] (List.isChain_singleton c)).2, fun c' hc' v hv => ?_⟩
    obtain ⟨hlen, hnd⟩ := h (c' :: v) (List.isChain_cons_cons.2 ⟨hc', hv⟩)
    exact ⟨by simpa using hlen, by simpa using hnd⟩
  · rintro ⟨hnd, hall⟩ v hv
    cases v with
    | nil => exact ⟨Nat.zero_le _, by simpa using hnd⟩
    | cons c' v =>
      obtain ⟨hc', hv'⟩ := List.isChain_cons_cons.1 hv
      obtain ⟨hlen, hnd'⟩ := hall c' hc' v hv'
      exact ⟨by simpa using hlen, by simpa using hnd'⟩

theorem compileWith_follows {keep : Location → Prop} {load : Path → CompileM String}
    {c : Location} {t : String} (hok : ScriptOk fs keep c t) {fs₁ : FileTree}
    (hr : Reached fs keep fs₁) (accepts : Location → Prop) (stops : CompileError → Prop)
    (hkeep : ∀ d ∈ directives t, ∀ fs₃ b fs₄, Reached fs keep fs₃ →
      load (directivePath c d) fs₃ = .ok (b, fs₄) → Reached fs keep fs₄)
    (hok_iff : ∀ d ∈ directives t, ∀ c', fs.canonicalize (directivePath c d) = .ok c' →
      ∀ fs₃, Reached fs keep fs₃ →
        ((∃ b fs₄, load (directivePath c d) fs₃ = .ok (b, fs₄)) ↔ accepts c'))
    (hstops : ∀ d ∈ directives t, ∀ fs₃ e, Reached fs keep fs₃ →
      load (directivePath c d) fs₃ = .error e → stops e) :
    (∀ out fs₂, compileWith load t (baseOf c) fs₁ = .ok (out, fs₂) → Reached fs keep fs₂) ∧
    ((∃ out fs₂, compileWith load t (baseOf c) fs₁ = .ok (out, fs₂)) ↔
      ∀ c', Sources fs c c' → accepts c') ∧
    (∀ e, compileWith load t (baseOf c) fs₁ = .error e → stops e) := by
  have hwrite : ∀ d ∈ directives t, ∀ fs₃ a, Reached fs keep fs₃ →
      ∃ fs₄, writeArtifact (artifactPath (directivePath c d)) a fs₃ = .ok ((), fs₄) ∧
        Reached fs keep fs₄ :=
    fun d hd fs₃ a hr₃ => hr₃.writeArtifact (hok.writes d hd) a
  have hsources : ∀ c', Sources fs c c' →
      ∃ d ∈ directives t, fs.canonicalize (directivePath c d) = .ok c' := by
    rintro c' ⟨t', ht', hd⟩
    rw [hok.read, Except.ok.injEq] at ht'
    exact ht' ▸ hd
  rcases compileWith_outcome hok.markerFree hok.finished hkeep hwrite hr with
    ⟨out, fs', hx, hi, hall⟩ | ⟨e, he, d, hd, fs₃, hr₃, hl⟩
  · refine ⟨fun out' fs₂ h => ?_, ⟨fun _ c' hc' => ?_, fun _ => ⟨out, fs', hx⟩⟩, fun e h => ?_⟩
    · rw [hx, Except.ok.injEq, Prod.mk.injEq] at h
      exact h.2 ▸ hi
    · obtain ⟨d, hd, hcan⟩ := hsources c' hc'
      obtain ⟨fs₃, hr₃, hload⟩ := hall d hd
      exact (hok_iff d hd c' hcan fs₃ hr₃).1 hload
    · rw [hx] at h
      cases h
  · refine ⟨fun out' fs₂ h => ?_, ⟨fun ⟨_, _, h⟩ => ?_, fun hacc => ?_⟩, fun e' h => ?_⟩
    · rw [he] at h
      cases h
    · rw [he] at h
      cases h
    · have hl : load (directivePath c d) fs₃ = .error e := hl
      obtain ⟨c', hcan⟩ := hok.resolves d hd
      obtain ⟨b, fs₄, hok'⟩ := (hok_iff d hd c' hcan fs₃ hr₃).2
        (hacc c' ⟨t, hok.read, d, hd, hcan⟩)
      rw [hl] at hok'
      cases hok'
    · rw [he, Except.error.injEq] at h
      exact h ▸ hstops d hd fs₃ e hr₃ hl

theorem sourceLoad_succ_apply {m r : Nat} {stack : List Location} {script : Path}
    {fs₁ : FileTree} {loc : Location} {t : String} (hcan : fs₁.canonicalize script = .ok loc)
    (hread : fs₁.read loc = .ok t) :
    sourceLoad m (r + 1) stack script fs₁ =
      if loc ∈ stack then .error (.cyclic ((stack ++ [loc]).map FileTree.pathOf))
      else compileText m r (stack ++ [loc]) t (baseOf loc) fs₁ := by
  rw [sourceLoad, bind_apply, enter_apply, hcan]
  dsimp only
  by_cases h : loc ∈ stack
  · simp [h]
  · simp only [h, List.contains_iff_mem, if_false]
    rw [bind_apply, readScript_apply, hread]

/-- What the compile of the script `c`, at the end of the directive path `s ++ [c]` from `root`,
does with room for `r` more levels: a success keeps the tree reached, it succeeds exactly when
the imports from `c` fit, and it can only stop as the graph allows. -/
structure FollowsGraph (fs : FileTree) (root : Location) (m r : Nat) (s : List Location)
    (c : Location) (t : String) (fs₁ : FileTree) : Prop where
  keeps : ∀ out fs₂, compileText m r (s ++ [c]) t (baseOf c) fs₁ = .ok (out, fs₂) →
    Reached fs (Relation.ReflTransGen (Sources fs) root) fs₂
  ok_iff : (∃ out fs₂, compileText m r (s ++ [c]) t (baseOf c) fs₁ = .ok (out, fs₂)) ↔
    ImportsFit fs s c r
  stops : ∀ e, compileText m r (s ++ [c]) t (baseOf c) fs₁ = .error e → StopsInGraph fs root m e

theorem scriptOk_of_reaches
    (hscripts : ∀ c, Relation.ReflTransGen (Sources fs) root c →
      ∃ t, ScriptOk fs (Relation.ReflTransGen (Sources fs) root) c t)
    {c : Location} {t : String} (hreach : Relation.ReflTransGen (Sources fs) root c)
    (hread : fs.read c = .ok t) : ScriptOk fs (Relation.ReflTransGen (Sources fs) root) c t := by
  obtain ⟨t₀, hok⟩ := hscripts c hreach
  rw [hok.read, Except.ok.injEq] at hread
  exact hread ▸ hok

theorem scriptOk_of_walk
    (hscripts : ∀ c, Relation.ReflTransGen (Sources fs) root c →
      ∃ t, ScriptOk fs (Relation.ReflTransGen (Sources fs) root) c t)
    {s : List Location} {c : Location} {t : String} (hw : List.IsChain (Sources fs) (s ++ [c]))
    (hh : (s ++ [c]).head? = some root) (hread : fs.read c = .ok t) :
    ScriptOk fs (Relation.ReflTransGen (Sources fs) root) c t :=
  scriptOk_of_reaches hscripts (reaches_of_walk hw hh) hread

theorem followsGraph_zero {s : List Location} {c : Location} {t : String} {fs₁ : FileTree}
    (hok : ScriptOk fs (Relation.ReflTransGen (Sources fs) root) c t) (hnd : (s ++ [c]).Nodup)
    (hr : Reached fs (Relation.ReflTransGen (Sources fs) root) fs₁) :
    FollowsGraph fs root m 0 s c t fs₁ := by
  have hlimit : ∀ p fs₃, sourceLoad m 0 (s ++ [c]) p fs₃ = .error (.depthExceeded m p) :=
    fun _ _ => rfl
  obtain ⟨keeps, ok_iff, stops⟩ :=
    @compileWith_follows _ _ (sourceLoad m 0 (s ++ [c])) _ _ hok _ hr (fun _ => False)
      (StopsInGraph fs root m)
      (fun d _ fs₃ b fs₄ _ h => by rw [hlimit] at h; cases h)
      (fun d _ c' _ fs₃ _ => ⟨fun ⟨b, fs₄, h⟩ => (by rw [hlimit] at h; cases h), False.elim⟩)
      (fun d _ fs₃ e _ h => .inl ⟨_, by rw [hlimit] at h; exact (Except.error.inj h).symm⟩)
  refine ⟨?_, ?_, ?_⟩
  · rw [compileText_eq_compileWith]
    exact keeps
  · rw [compileText_eq_compileWith, ok_iff, importsFit_zero_iff]
    simp [hnd]
  · rw [compileText_eq_compileWith]
    exact stops

theorem followsGraph_succ (hc : fs.Closed)
    (hscripts : ∀ c, Relation.ReflTransGen (Sources fs) root c →
      ∃ t, ScriptOk fs (Relation.ReflTransGen (Sources fs) root) c t) {r : Nat}
    (ih : ∀ (s : List Location) (c : Location) (t : String) (fs₁ : FileTree),
      List.IsChain (Sources fs) (s ++ [c]) → (s ++ [c]).head? = some root → (s ++ [c]).Nodup →
      fs.read c = .ok t → Reached fs (Relation.ReflTransGen (Sources fs) root) fs₁ →
      FollowsGraph fs root m r s c t fs₁)
    {s : List Location} {c : Location} {t : String} {fs₁ : FileTree}
    (hw : List.IsChain (Sources fs) (s ++ [c])) (hh : (s ++ [c]).head? = some root)
    (hnd : (s ++ [c]).Nodup) (hread : fs.read c = .ok t)
    (hr : Reached fs (Relation.ReflTransGen (Sources fs) root) fs₁) :
    FollowsGraph fs root m (r + 1) s c t fs₁ := by
  have hok := scriptOk_of_walk hscripts hw hh hread
  -- each directive resolves to a script of the graph, loaded by the compile of one more level
  have hnext : ∀ d ∈ directives t, ∀ c', fs.canonicalize (directivePath c d) = .ok c' →
      ∃ t', List.IsChain (Sources fs) (s ++ [c] ++ [c']) ∧
        (s ++ [c] ++ [c']).head? = some root ∧ fs.read c' = .ok t' ∧
        ∀ fs₃, Reached fs (Relation.ReflTransGen (Sources fs) root) fs₃ →
          sourceLoad m (r + 1) (s ++ [c]) (directivePath c d) fs₃ =
          if c' ∈ s ++ [c] then .error (.cyclic ((s ++ [c] ++ [c']).map FileTree.pathOf))
          else compileText m r (s ++ [c] ++ [c']) t' (baseOf c') fs₃ := by
    intro d hd c' hcan
    have hedge : Sources fs c c' := ⟨t, hread, d, hd, hcan⟩
    have hreach := (reaches_of_walk hw hh).tail hedge
    obtain ⟨t', hok'⟩ := hscripts c' hreach
    have hw' : List.IsChain (Sources fs) (s ++ [c] ++ [c']) :=
      hw.append (List.isChain_singleton c') (by simpa using hedge)
    have hh' : (s ++ [c] ++ [c']).head? = some root := by
      rw [List.head?_append_of_ne_nil _ (by simp), hh]
    refine ⟨t', hw', hh', hok'.read, fun fs₃ hr₃ => ?_⟩
    exact sourceLoad_succ_apply (FileTree.canonicalize_written hc hr₃.written hcan)
      ((hr₃.scripts c' hreach).trans hok'.read)
  obtain ⟨keeps, ok_iff, stops⟩ :=
    @compileWith_follows _ _ (sourceLoad m (r + 1) (s ++ [c])) _ _ hok _ hr
      (fun c' => ImportsFit fs (s ++ [c]) c' r) (StopsInGraph fs root m)
    (fun d hd fs₃ b fs₄ hr₃ h => by
      obtain ⟨c', hcan⟩ := hok.resolves d hd
      obtain ⟨t', hw', hh', hread', hload⟩ := hnext d hd c' hcan
      rw [hload fs₃ hr₃] at h
      split_ifs at h with hmem
      exact (ih _ c' t' fs₃ hw' hh' (nodup_snoc hnd hmem) hread' hr₃).keeps _ _ h)
    (fun d hd c' hcan fs₃ hr₃ => by
      obtain ⟨t', hw', hh', hread', hload⟩ := hnext d hd c' hcan
      rw [hload fs₃ hr₃]
      by_cases hmem : c' ∈ s ++ [c]
      · rw [if_pos hmem]
        exact ⟨fun ⟨_, _, h⟩ => (by cases h),
          fun hfit => absurd hmem (not_mem_of_importsFit hfit)⟩
      · rw [if_neg hmem]
        exact (ih _ c' t' fs₃ hw' hh' (nodup_snoc hnd hmem) hread' hr₃).ok_iff)
    (fun d hd fs₃ e hr₃ h => by
      obtain ⟨c', hcan⟩ := hok.resolves d hd
      obtain ⟨t', hw', hh', hread', hload⟩ := hnext d hd c' hcan
      rw [hload fs₃ hr₃] at h
      split_ifs at h with hmem
      · refine .inr ⟨s ++ [c] ++ [c'], hw', hh', ⟨c', by simpa using hmem, by simp⟩, ?_⟩
        exact (Except.error.inj h).symm
      · exact (ih _ c' t' fs₃ hw' hh' (nodup_snoc hnd hmem) hread' hr₃).stops e h)
  refine ⟨?_, ?_, ?_⟩
  · rw [compileText_eq_compileWith]
    exact keeps
  · rw [compileText_eq_compileWith, ok_iff, importsFit_succ_iff]
    simp [hnd]
  · rw [compileText_eq_compileWith]
    exact stops

/-- Compiling a script at the end of a directive path follows the import graph, at every room
left: by induction on the room, each directive loads its script with one level less, from a
tree that the compile has reached. -/
theorem followsGraph (hc : fs.Closed)
    (hscripts : ∀ c, Relation.ReflTransGen (Sources fs) root c →
      ∃ t, ScriptOk fs (Relation.ReflTransGen (Sources fs) root) c t) (r : Nat) :
    ∀ (s : List Location) (c : Location) (t : String) (fs₁ : FileTree),
      List.IsChain (Sources fs) (s ++ [c]) → (s ++ [c]).head? = some root → (s ++ [c]).Nodup →
      fs.read c = .ok t → Reached fs (Relation.ReflTransGen (Sources fs) root) fs₁ →
      FollowsGraph fs root m r s c t fs₁ := by
  induction r with
  | zero =>
    intro s c t fs₁ hw hh hnd hread hr
    exact followsGraph_zero (scriptOk_of_walk hscripts hw hh hread) hnd hr
  | succ r ih =>
    intro s c t fs₁ hw hh hnd hread hr
    exact followsGraph_succ hc hscripts ih hw hh hnd hread hr

theorem mem_of_reaches {S : List Location} (hroot : root ∈ S)
    (hstep : ∀ c ∈ S, ∀ c', Sources fs c c' → c' ∈ S) {c : Location}
    (h : Relation.ReflTransGen (Sources fs) root c) : c ∈ S := by
  induction h with
  | refl => exact hroot
  | tail _ hbc ih => exact hstep _ ih _ hbc

theorem importsFit_nil_iff {c : Location} {r : Nat} :
    ImportsFit fs [] c r ↔ ImportsAcyclic fs c ∧ ImportDepthAtMost fs c r :=
  ⟨fun h => ⟨fun v hv => (h v hv).2, fun v hv => (h v hv).1⟩,
    fun ⟨hacyc, hdepth⟩ v hv => ⟨hdepth v hv, hacyc v hv⟩⟩

theorem compile_file_apply {p : Path} {t : String} (hcan : fs.canonicalize p = .ok root)
    (hread : fs.read root = .ok t) :
    compile m (.file p) fs = compileText m m [root] t (baseOf root) fs := by
  rw [Session.compile_eq_runFrom]
  have h := @sourceLoad_succ_apply m m [] p fs root t hcan hread
  rw [if_neg List.not_mem_nil] at h
  exact h

/-- Compiling a script file decides the shape of its import graph: when every script the graph
reaches is ready to compile, the compile with import depth `m` succeeds exactly when no
directive path from the script returns to a script already on it and none has more than `m`
edges, and it can only fail by reaching that depth or on a directive path that closes a cycle. -/
theorem compile_file_ok_iff_graph_fits {p : Path} (hc : fs.Closed)
    (hroot : fs.canonicalize p = .ok root)
    (hscripts : ∀ c, Relation.ReflTransGen (Sources fs) root c →
      ∃ t, ScriptOk fs (Relation.ReflTransGen (Sources fs) root) c t) :
    ((∃ out fs', compile m (.file p) fs = .ok (out, fs')) ↔
      ImportsAcyclic fs root ∧ ImportDepthAtMost fs root m) ∧
    ∀ e, compile m (.file p) fs = .error e → StopsInGraph fs root m e := by
  obtain ⟨t, hok⟩ := hscripts root .refl
  have hg : FollowsGraph fs root m m [] root t fs :=
    followsGraph hc hscripts m [] root t fs (List.isChain_singleton root) rfl
      (List.pairwise_singleton _ root) hok.read (Reached.refl fs _)
  rw [compile_file_apply hroot hok.read, ← importsFit_nil_iff]
  exact ⟨hg.ok_iff, hg.stops⟩

end Graph

theorem compile_file_ok_iff_graph_fits_mainWithLib :
    mainWithLib.Closed ∧ mainWithLib.canonicalize ⟨"main.script"⟩ = .ok ["main.script"] ∧
    (∀ c, Relation.ReflTransGen (Sources mainWithLib) ["main.script"] c →
      ∃ t, ScriptOk mainWithLib (Relation.ReflTransGen (Sources mainWithLib) ["main.script"]) c t) ∧
    ((∃ out fs', compile 1 (.file ⟨"main.script"⟩) mainWithLib = .ok (out, fs')) ↔
      ImportsAcyclic mainWithLib ["main.script"] ∧
        ImportDepthAtMost mainWithLib ["main.script"] 1) ∧
    ∀ e, compile 1 (.file ⟨"main.script"⟩) mainWithLib = .error e →
      StopsInGraph mainWithLib ["main.script"] 1 e := by
  have hc : mainWithLib.Closed := FileTree.Closed.of_all (by decide) (by decide)
  have hroot : mainWithLib.canonicalize ⟨"main.script"⟩ = .ok ["main.script"] := by
    rw [FileTree.canonicalize, String.contains_char_eq]
    rfl
  have hmain : directives "source lib/a.script\n" = [⟨"", "lib/a.script", none⟩] := by decide
  have hlib : directives "x = 1\n" = [] := by decide
  have hpath : directivePath ["main.script"] ⟨"", "lib/a.script", none⟩ = ⟨"/lib/a.script"⟩ := rfl
  have hcan : mainWithLib.canonicalize ⟨"/lib/a.script"⟩ = .ok ["lib", "a.script"] := by
    rw [FileTree.canonicalize, String.contains_char_eq]
    rfl
  have hwrite : ∀ a, mainWithLib.write (artifactPath ⟨"/lib/a.script"⟩) a =
      .ok (mainWithLib.set ["lib", ".a.py"] (.file a)) := by
    intro a
    rw [FileTree.write, String.contains_char_eq]
    rfl
  -- the graph reaches the two scripts and nothing else
  have hreach : ∀ c, Relation.ReflTransGen (Sources mainWithLib) ["main.script"] c →
      c = ["main.script"] ∨ c = ["lib", "a.script"] := by
    intro c h
    have hmem : c ∈ [["main.script"], ["lib", "a.script"]] := by
      refine mem_of_reaches (by simp) ?_ h
      rintro c hc c' ⟨t, ht, d, hd, hd'⟩
      simp only [List.mem_cons, List.not_mem_nil, or_false] at hc
      rcases hc with rfl | rfl
      · cases (Except.ok.inj ht : "source lib/a.script\n" = t)
        rw [hmain, List.mem_singleton] at hd
        subst hd
        rw [hpath, hcan] at hd'
        cases hd'
        simp
      · cases (Except.ok.inj ht : "x = 1\n" = t)
        rw [hlib] at hd
        cases hd
    simpa using hmem
  have hmainOk : ScriptOk mainWithLib (Relation.ReflTransGen (Sources mainWithLib) ["main.script"])
      ["main.script"] "source lib/a.script\n" := by
    refine ⟨rfl, markerFree_of_not_mem (by decide), by decide, ?_, ?_⟩
    · intro d hd
      rw [hmain, List.mem_singleton] at hd
      subst hd
      exact ⟨_, hpath ▸ hcan⟩
    · intro d hd a
      rw [hmain, List.mem_singleton] at hd
      subst hd
      refine ⟨_, hpath ▸ hwrite a, fun c' hc' => FileTree.read_set_ne _ _ (by simp) ?_⟩
      rcases hreach c' hc' with rfl | rfl <;> simp
  have hlibOk : ScriptOk mainWithLib (Relation.ReflTransGen (Sources mainWithLib) ["main.script"])
      ["lib", "a.script"] "x = 1\n" :=
    ScriptOk.of_directives_eq_nil rfl hlib (markerFree_of_not_mem (by decide)) (by decide)
  have hscripts : ∀ c, Relation.ReflTransGen (Sources mainWithLib) ["main.script"] c →
      ∃ t, ScriptOk mainWithLib (Relation.ReflTransGen (Sources mainWithLib) ["main.script"])
        c t := by
    intro c h
    rcases hreach c h with rfl | rfl
    · exact ⟨_, hmainOk⟩
    · exact ⟨_, hlibOk⟩
  exact ⟨hc, hroot, hscripts, compile_file_ok_iff_graph_fits hc hroot hscripts⟩

end Compile
end MixedScript

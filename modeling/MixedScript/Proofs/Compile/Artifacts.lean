import MixedScript.Proofs.Compile.Imports
import MixedScript.Proofs.Compile.SourceCall

/-!
# What a compile leaves in the artifacts

A script compiles to a program fixed by its text and directory (`compileWith_program`). So when
directives of the import graph that write at one location name one script, every artifact of a
successful compile ends holding the preamble and its script's program
(`compile_file_artifacts_hold_programs`). Artifacts are named by directory and stem alone
(`artifactPath_eq_iff`), so `lib/a.script` and `lib/a.sh` would share `lib/.a.py`.
-/

namespace MixedScript
namespace Compile

open MixedScript.Layout

/-- The program a script compiles to once its directives are expanded: a function of its text
and of the directory its directives resolve against, whatever the compile loads. -/
def program (t : String) (base : Path) : Except CompileError String :=
  emit t (Layout.ofSource t) ((scriptLines t).map (expandedLine base))
    ((scriptLines t).filterMap fun l => (Directive.parse? l).map Directive.boundName)

theorem compileWith_program {load : Path → CompileM String} {t : String} {base : Path}
    {fs fs' : FileTree} {out : String} (h : compileWith load t base fs = .ok (out, fs')) :
    program t base = .ok out := by
  obtain ⟨ex, bd, hx, hemit⟩ := compileWith_eq_ok h
  obtain ⟨rfl, rfl⟩ := expandLines_ok hx
  exact hemit

/-- Writing any text at the path `p` of `fs` puts it in a file at `l`. -/
def WritesAt (fs : FileTree) (p : Path) (l : Location) : Prop :=
  ∀ t, fs.write p t = .ok (fs.set l (.file t))

theorem WritesAt.unique {fs : FileTree} {p : Path} {l₁ l₂ : Location} (h₁ : WritesAt fs p l₁)
    (h₂ : WritesAt fs p l₂) : l₁ = l₂ := by
  have h := congrArg FileTree.entries (Except.ok.inj ((h₁ "").symm.trans (h₂ "")))
  simp only [FileTree.set, List.cons.injEq, Prod.mk.injEq] at h
  exact h.1.1

theorem expandLines_settles {load : Path → CompileM String} {base : Path}
    (Inv : FileTree → Prop) (R : FileTree → FileTree → Prop) (Done : Directive → FileTree → Prop)
    (hrefl : ∀ fs, R fs fs) (htrans : ∀ {fs₁ fs₂ fs₃}, R fs₁ fs₂ → R fs₂ fs₃ → R fs₁ fs₃) :
    ∀ {lines : List String},
      (∀ d ∈ lines.filterMap Directive.parse?, ∀ fs₁ fs₂, Done d fs₁ → R fs₁ fs₂ → Done d fs₂) →
      (∀ d ∈ lines.filterMap Directive.parse?, ∀ fs₁ b fs₂ fs₃, Inv fs₁ →
        load (base.join ⟨d.path⟩) fs₁ = .ok (b, fs₂) →
        writeArtifact (artifactPath (base.join ⟨d.path⟩)) (Target.importPreamble ++ "\n\n" ++ b)
          fs₂ = .ok ((), fs₃) →
        Inv fs₃ ∧ R fs₁ fs₃ ∧ Done d fs₃) →
      ∀ {fs fs' : FileTree} {r : List String × List String}, Inv fs →
        expandLines load base lines fs = .ok (r, fs') →
        Inv fs' ∧ R fs fs' ∧ ∀ d ∈ lines.filterMap Directive.parse?, Done d fs'
  | [], _, _, fs, fs', r, hi, h => by
    simp only [expandLines, pure, StateT.pure, Except.pure, Except.ok.injEq, Prod.mk.injEq] at h
    obtain ⟨-, rfl⟩ := h
    exact ⟨hi, hrefl fs, by simp⟩
  | line :: rest, hstable, hstep, fs, fs', r, hi, h => by
    unfold expandLines at h
    cases hd : Directive.parse? line with
    | none =>
      have hdir : (line :: rest).filterMap Directive.parse? = rest.filterMap Directive.parse? := by
        simp [hd]
      rw [hdir] at hstable hstep ⊢
      rw [hd] at h
      obtain ⟨⟨ls, ns⟩, fs₁, hr, hp⟩ := bind_eq_ok h
      simp only [pure, StateT.pure, Except.pure, Except.ok.injEq, Prod.mk.injEq] at hp
      obtain ⟨-, rfl⟩ := hp
      exact expandLines_settles Inv R Done hrefl htrans hstable hstep hi hr
    | some d =>
      have hdir :
          (line :: rest).filterMap Directive.parse? = d :: rest.filterMap Directive.parse? :=
        List.filterMap_cons_some hd
      rw [hdir] at hstable hstep ⊢
      rw [hd] at h
      obtain ⟨b, fs₁, hl, h₁⟩ := bind_eq_ok h
      obtain ⟨_, fs₂, hw, h₂⟩ := bind_eq_ok h₁
      obtain ⟨⟨ls, ns⟩, fs₃, hr, hp⟩ := bind_eq_ok h₂
      simp only [pure, StateT.pure, Except.pure, Except.ok.injEq, Prod.mk.injEq] at hp
      obtain ⟨-, rfl⟩ := hp
      obtain ⟨hi₂, hR₂, hdone⟩ := hstep d List.mem_cons_self fs b fs₁ fs₂ hi hl hw
      obtain ⟨hi', hR', hall⟩ := expandLines_settles Inv R Done hrefl htrans
        (fun d' h' => hstable d' (List.mem_cons_of_mem d h'))
        (fun d' h' => hstep d' (List.mem_cons_of_mem d h')) hi₂ hr
      refine ⟨hi', htrans hR₂ hR', fun d' hd' => ?_⟩
      rcases List.mem_cons.1 hd' with rfl | hd'
      · exact hstable _ List.mem_cons_self _ _ hdone hR'
      · exact hall d' hd'

section Run

variable {fs : FileTree} {root : Location} {m : Nat}

/-- The directive `d` of the script at `c`, which the import graph from `root` reaches, names the
script at `c'` and writes its artifact at `l`. -/
structure ArtifactEdge (fs : FileTree) (root c : Location) (d : Directive) (c' l : Location) :
    Prop where
  reaches : Relation.ReflTransGen (Sources fs) root c
  mem : ∃ t, fs.read c = .ok t ∧ d ∈ directives t
  names : fs.canonicalize (directivePath c d) = .ok c'
  writesAt : WritesAt fs (artifactPath (directivePath c d)) l

/-- Directives of the graph that write their artifacts at one location name one script. -/
def ArtifactsApart (fs : FileTree) (root : Location) : Prop :=
  ∀ c₁ d₁ c₁' c₂ d₂ c₂' l, ArtifactEdge fs root c₁ d₁ c₁' l → ArtifactEdge fs root c₂ d₂ c₂' l →
    c₁' = c₂'

/-- In `fs₁`, the file at `l` holds the artifact of the script at `c'` of `fs`: the sourced
preamble, a blank line and the script's program. -/
def HoldsArtifact (fs fs₁ : FileTree) (c' l : Location) : Prop :=
  ∃ t body, fs.read c' = .ok t ∧ program t (baseOf c') = .ok body ∧
    fs₁.read l = .ok (Target.importPreamble ++ "\n\n" ++ body)

theorem HoldsArtifact.of_read_eq {fs₁ fs₂ : FileTree} {c' l : Location}
    (h : HoldsArtifact fs fs₁ c' l) (he : fs₂.read l = fs₁.read l) : HoldsArtifact fs fs₂ c' l := by
  obtain ⟨t, body, ht, hb, hl⟩ := h
  exact ⟨t, body, ht, hb, he.trans hl⟩

/-- Every location of `fs₂` holds what it held in `fs₁`, or the artifact that a directive of the
graph writes there. -/
def Grows (fs : FileTree) (root : Location) (fs₁ fs₂ : FileTree) : Prop :=
  ∀ l, fs₂.read l = fs₁.read l ∨ ∃ c d c', ArtifactEdge fs root c d c' l ∧ HoldsArtifact fs fs₂ c' l

theorem Grows.refl (fs₁ : FileTree) : Grows fs root fs₁ fs₁ := fun _ => .inl rfl

theorem Grows.trans {fs₁ fs₂ fs₃ : FileTree} (h₁ : Grows fs root fs₁ fs₂)
    (h₂ : Grows fs root fs₂ fs₃) : Grows fs root fs₁ fs₃ := by
  intro l
  rcases h₂ l with h | h
  · rcases h₁ l with h' | ⟨c, d, c', he, hh⟩
    · exact .inl (h.trans h')
    · exact .inr ⟨c, d, c', he, hh.of_read_eq h⟩
  · exact .inr h

theorem HoldsArtifact.grows (hapart : ArtifactsApart fs root) {c c' l : Location} {d : Directive}
    {fs₁ fs₂ : FileTree} (he : ArtifactEdge fs root c d c' l) (h : HoldsArtifact fs fs₁ c' l)
    (hg : Grows fs root fs₁ fs₂) : HoldsArtifact fs fs₂ c' l := by
  rcases hg l with hr | ⟨c₂, d₂, c₂', he₂, h₂⟩
  · exact h.of_read_eq hr
  · rwa [hapart _ _ _ _ _ _ _ he he₂]

/-- Every directive of every script reachable from `c` has its artifact holding the program of
the script it names. -/
def Settled (fs : FileTree) (root : Location) (fs₁ : FileTree) (c : Location) : Prop :=
  ∀ c₀ d c' l, Relation.ReflTransGen (Sources fs) c c₀ → ArtifactEdge fs root c₀ d c' l →
    HoldsArtifact fs fs₁ c' l

theorem Settled.grows (hapart : ArtifactsApart fs root) {fs₁ fs₂ : FileTree} {c : Location}
    (h : Settled fs root fs₁ c) (hg : Grows fs root fs₁ fs₂) : Settled fs root fs₂ c :=
  fun c₀ d c' l hr he => (h c₀ d c' l hr he).grows hapart he hg

/-- The directive `d` of the script at `c` has its artifact holding the program of the script it
names, and that script is settled. -/
def DirectiveSettled (fs : FileTree) (root : Location) (fs₁ : FileTree) (c : Location)
    (d : Directive) : Prop :=
  ∀ c', fs.canonicalize (directivePath c d) = .ok c' →
    (∀ l, WritesAt fs (artifactPath (directivePath c d)) l → HoldsArtifact fs fs₁ c' l) ∧
      Settled fs root fs₁ c'

theorem settled_of_directives {fs₁ : FileTree} {c : Location} {t : String}
    (hread : fs.read c = .ok t) (h : ∀ d ∈ directives t, DirectiveSettled fs root fs₁ c d) :
    Settled fs root fs₁ c := by
  intro c₀ d c' l hreach he
  rcases Relation.ReflTransGen.cases_head_iff.1 hreach with
    rfl | ⟨c₁, ⟨t₁, ht₁, d₁, hd₁, hcan₁⟩, hreach₁⟩
  · obtain ⟨t₀, ht₀, hd⟩ := he.mem
    rw [hread, Except.ok.injEq] at ht₀
    subst ht₀
    exact (h d hd c' he.names).1 l he.writesAt
  · rw [hread, Except.ok.injEq] at ht₁
    subst ht₁
    exact (h d₁ hd₁ c₁ hcan₁).2 c₀ d c' l hreach₁ he

theorem directive_settles (hapart : ArtifactsApart fs root) {c c' : Location} {t : String}
    {d : Directive} (hreach : Relation.ReflTransGen (Sources fs) root c)
    (hok : ScriptOk fs (Relation.ReflTransGen (Sources fs) root) c t) (hd : d ∈ directives t)
    (hcan : fs.canonicalize (directivePath c d) = .ok c') {fs₄ fs₅ : FileTree} {b : String}
    (hr₄ : Reached fs (Relation.ReflTransGen (Sources fs) root) fs₄) (hs₄ : Settled fs root fs₄ c')
    (hb : ∃ t', fs.read c' = .ok t' ∧ program t' (baseOf c') = .ok b)
    (hw : writeArtifact (artifactPath (directivePath c d)) (Target.importPreamble ++ "\n\n" ++ b)
      fs₄ = .ok ((), fs₅)) :
    Reached fs (Relation.ReflTransGen (Sources fs) root) fs₅ ∧ Grows fs root fs₄ fs₅ ∧
      DirectiveSettled fs root fs₅ c d := by
  obtain ⟨t', ht', hprog⟩ := hb
  obtain ⟨l₀, -, hl₀, -, hall⟩ := FileTree.write_outside (hok.writes d hd)
  have hat : WritesAt fs (artifactPath (directivePath c d)) l₀ := hall fs (FileTree.Written.refl fs)
  have hfs₅ : fs₅ = fs₄.set l₀ (.file (Target.importPreamble ++ "\n\n" ++ b)) := by
    rw [writeArtifact_apply, hall fs₄ hr₄.written] at hw
    exact (Prod.mk.inj (Except.ok.inj hw)).2.symm
  have hholds : HoldsArtifact fs fs₅ c' l₀ :=
    ⟨t', b, ht', hprog, by simp [hfs₅, FileTree.read, FileTree.find?_set _ _ hl₀, pure, Except.pure]⟩
  have hg : Grows fs root fs₄ fs₅ := by
    intro l
    by_cases hl : l = l₀
    · subst hl
      exact .inr ⟨c, d, c', ⟨hreach, ⟨t, hok.read, hd⟩, hcan, hat⟩, hholds⟩
    · exact .inl (by rw [hfs₅]; exact FileTree.read_set_ne _ _ hl₀ hl)
  obtain ⟨fs₅', hw', hr₅⟩ := hr₄.writeArtifact (hok.writes d hd)
    (Target.importPreamble ++ "\n\n" ++ b)
  rw [hw, Except.ok.injEq, Prod.mk.injEq] at hw'
  refine ⟨hw'.2 ▸ hr₅, hg, fun c'' hcan' => ?_⟩
  rw [hcan, Except.ok.injEq] at hcan'
  subst hcan'
  exact ⟨fun l hl => hat.unique hl ▸ hholds, hs₄.grows hapart hg⟩

theorem compileWith_settles (hapart : ArtifactsApart fs root) {load : Path → CompileM String}
    {c : Location} {t : String} (hreach : Relation.ReflTransGen (Sources fs) root c)
    (hok : ScriptOk fs (Relation.ReflTransGen (Sources fs) root) c t)
    (hload : ∀ d ∈ directives t, ∀ c', fs.canonicalize (directivePath c d) = .ok c' →
      ∀ fs₃ b fs₄, Reached fs (Relation.ReflTransGen (Sources fs) root) fs₃ →
      load (directivePath c d) fs₃ = .ok (b, fs₄) →
      Reached fs (Relation.ReflTransGen (Sources fs) root) fs₄ ∧ Grows fs root fs₃ fs₄ ∧
        Settled fs root fs₄ c' ∧ ∃ t', fs.read c' = .ok t' ∧ program t' (baseOf c') = .ok b)
    {fs₁ fs₂ : FileTree} {out : String}
    (hr : Reached fs (Relation.ReflTransGen (Sources fs) root) fs₁)
    (h : compileWith load t (baseOf c) fs₁ = .ok (out, fs₂)) :
    Reached fs (Relation.ReflTransGen (Sources fs) root) fs₂ ∧ Grows fs root fs₁ fs₂ ∧
      Settled fs root fs₂ c := by
  obtain ⟨ex, bd, hx, -⟩ := compileWith_eq_ok h
  change expandLines load (baseOf c) (scriptLines t) fs₁ = _ at hx
  obtain ⟨hr₂, hg, hall⟩ := expandLines_settles (Reached fs (Relation.ReflTransGen (Sources fs) root))
    (Grows fs root) (fun d fs₃ => DirectiveSettled fs root fs₃ c d) Grows.refl Grows.trans
    (fun d hd fs₃ fs₄ hdone hg c' hcan => by
      rw [← directives_eq] at hd
      obtain ⟨hholds, hsettled⟩ := hdone c' hcan
      exact ⟨fun l hl => (hholds l hl).grows hapart ⟨hreach, ⟨t, hok.read, hd⟩, hcan, hl⟩ hg,
        hsettled.grows hapart hg⟩)
    (fun d hd fs₃ b fs₄ fs₅ hr₃ hl hw => by
      rw [← directives_eq] at hd
      obtain ⟨c', hcan⟩ := hok.resolves d hd
      obtain ⟨hr₄, hg₄, hs₄, hb⟩ := hload d hd c' hcan fs₃ b fs₄ hr₃ hl
      obtain ⟨hr₅, hg₅, hdone⟩ := directive_settles hapart hreach hok hd hcan hr₄ hs₄ hb hw
      exact ⟨hr₅, hg₄.trans hg₅, hdone⟩) hr hx
  rw [← directives_eq] at hall
  exact ⟨hr₂, hg, settled_of_directives hok.read hall⟩

theorem compileText_settles (hc : fs.Closed)
    (hscripts : ∀ c, Relation.ReflTransGen (Sources fs) root c →
      ∃ t, ScriptOk fs (Relation.ReflTransGen (Sources fs) root) c t)
    (hapart : ArtifactsApart fs root) (r : Nat) :
    ∀ (st : List Location) (c : Location) (t : String) (fs₁ fs₂ : FileTree) (out : String),
      Relation.ReflTransGen (Sources fs) root c → fs.read c = .ok t →
      Reached fs (Relation.ReflTransGen (Sources fs) root) fs₁ →
      compileText m r st t (baseOf c) fs₁ = .ok (out, fs₂) →
      Reached fs (Relation.ReflTransGen (Sources fs) root) fs₂ ∧ Grows fs root fs₁ fs₂ ∧
        Settled fs root fs₂ c := by
  induction r with
  | zero =>
    intro st c t fs₁ fs₂ out hreach hread hr h
    rw [compileText_eq_compileWith] at h
    -- with no level left every load stops at the limit
    have hlimit : ∀ p fs₃, sourceLoad m 0 st p fs₃ = .error (.depthExceeded m p) :=
      fun _ _ => rfl
    exact compileWith_settles hapart hreach (scriptOk_of_reaches hscripts hreach hread)
      (fun d _ c' _ fs₃ b fs₄ _ hl => by rw [hlimit] at hl; cases hl) hr h
  | succ r ih =>
    intro st c t fs₁ fs₂ out hreach hread hr h
    rw [compileText_eq_compileWith] at h
    refine compileWith_settles hapart hreach (scriptOk_of_reaches hscripts hreach hread)
      (fun d hd c' hcan fs₃ b fs₄ hr₃ hl => ?_) hr h
    have hreach' := hreach.tail ⟨t, hread, d, hd, hcan⟩
    obtain ⟨t', hok'⟩ := hscripts c' hreach'
    rw [sourceLoad_succ_apply (FileTree.canonicalize_written hc hr₃.written hcan)
      ((hr₃.scripts c' hreach').trans hok'.read)] at hl
    split_ifs at hl
    obtain ⟨hr₄, hg, hs⟩ := ih (st ++ [c']) c' t' fs₃ fs₄ b hreach' hok'.read hr₃ hl
    rw [compileText_eq_compileWith] at hl
    exact ⟨hr₄, hg, hs, t', hok'.read, compileWith_program hl⟩

/-- A successful compile of a script file, in a tree where every script the import graph
reaches is ready to compile and directives of the graph that write at one location name one
script, returns the program of the script, and leaves the artifact of every directive of every
script of the graph holding the sourced preamble, a blank line and the program of the script
that the directive names. -/
theorem compile_file_artifacts_hold_programs {p : Path} (hc : fs.Closed)
    (hroot : fs.canonicalize p = .ok root)
    (hscripts : ∀ c, Relation.ReflTransGen (Sources fs) root c →
      ∃ t, ScriptOk fs (Relation.ReflTransGen (Sources fs) root) c t)
    (hapart : ArtifactsApart fs root) {out : String} {fs' : FileTree}
    (hrun : compile m (.file p) fs = .ok (out, fs')) :
    (∃ t, fs.read root = .ok t ∧ program t (baseOf root) = .ok out) ∧
    ∀ c t, Relation.ReflTransGen (Sources fs) root c → fs.read c = .ok t → ∀ d ∈ directives t,
      ∃ c' l, fs.canonicalize (directivePath c d) = .ok c' ∧
        WritesAt fs (artifactPath (directivePath c d)) l ∧ HoldsArtifact fs fs' c' l := by
  obtain ⟨t₀, hok₀⟩ := hscripts root .refl
  rw [compile_file_apply hroot hok₀.read] at hrun
  obtain ⟨-, -, hsettled⟩ := compileText_settles hc hscripts hapart m [root] root t₀ fs fs' out
    .refl hok₀.read (Reached.refl fs _) hrun
  rw [compileText_eq_compileWith] at hrun
  refine ⟨⟨t₀, hok₀.read, compileWith_program hrun⟩, fun c t hreach hread d hd => ?_⟩
  have hok := scriptOk_of_reaches hscripts hreach hread
  obtain ⟨c', hcan⟩ := hok.resolves d hd
  obtain ⟨l, -, -, -, hall⟩ := FileTree.write_outside (hok.writes d hd)
  have hat : WritesAt fs (artifactPath (directivePath c d)) l := hall fs (FileTree.Written.refl fs)
  exact ⟨c', l, hcan, hat, hsettled c d c' l hreach ⟨hreach, ⟨t, hread, hd⟩, hcan, hat⟩⟩

end Run

/-- A script that sources two scripts of one directory with different stems. -/
def mainWithLibs : FileTree :=
  ⟨[(["main.script"], .file "source lib/a.script\nsource lib/b.script\n"), (["lib"], .dir),
    (["lib", "a.script"], .file "x = 1\n"), (["lib", "b.script"], .file "y = 2\n")], []⟩

theorem compile_file_artifacts_hold_programs_mainWithLibs :
    mainWithLibs.Closed ∧ mainWithLibs.canonicalize ⟨"main.script"⟩ = .ok ["main.script"] ∧
    (∀ c, Relation.ReflTransGen (Sources mainWithLibs) ["main.script"] c →
      ∃ t, ScriptOk mainWithLibs (Relation.ReflTransGen (Sources mainWithLibs) ["main.script"])
        c t) ∧
    ArtifactsApart mainWithLibs ["main.script"] ∧
    ∃ out fs', compile 1 (.file ⟨"main.script"⟩) mainWithLibs = .ok (out, fs') ∧
      (∃ t, mainWithLibs.read ["main.script"] = .ok t ∧
        program t (baseOf ["main.script"]) = .ok out) ∧
      ∀ c t, Relation.ReflTransGen (Sources mainWithLibs) ["main.script"] c →
        mainWithLibs.read c = .ok t → ∀ d ∈ directives t,
          ∃ c' l, mainWithLibs.canonicalize (directivePath c d) = .ok c' ∧
            WritesAt mainWithLibs (artifactPath (directivePath c d)) l ∧
            HoldsArtifact mainWithLibs fs' c' l := by
  have hc : mainWithLibs.Closed := FileTree.Closed.of_all (by decide) (by decide)
  have hroot : mainWithLibs.canonicalize ⟨"main.script"⟩ = .ok ["main.script"] := by
    rw [FileTree.canonicalize, String.contains_char_eq]
    rfl
  have hmain : directives "source lib/a.script\nsource lib/b.script\n" =
      [⟨"", "lib/a.script", none⟩, ⟨"", "lib/b.script", none⟩] := by decide
  have hmem : ∀ d, d ∈ directives "source lib/a.script\nsource lib/b.script\n" →
      d = ⟨"", "lib/a.script", none⟩ ∨ d = ⟨"", "lib/b.script", none⟩ := by
    intro d hd
    simpa [hmain] using hd
  have hx : directives "x = 1\n" = [] := by decide
  have hy : directives "y = 2\n" = [] := by decide
  have hcanA : mainWithLibs.canonicalize (directivePath ["main.script"] ⟨"", "lib/a.script", none⟩) =
      .ok ["lib", "a.script"] := by
    rw [directivePath, FileTree.canonicalize, String.contains_char_eq]
    rfl
  have hcanB : mainWithLibs.canonicalize (directivePath ["main.script"] ⟨"", "lib/b.script", none⟩) =
      .ok ["lib", "b.script"] := by
    rw [directivePath, FileTree.canonicalize, String.contains_char_eq]
    rfl
  have hatA : WritesAt mainWithLibs
      (artifactPath (directivePath ["main.script"] ⟨"", "lib/a.script", none⟩)) ["lib", ".a.py"] :=
    fun a => by
      rw [FileTree.write, String.contains_char_eq]
      rfl
  have hatB : WritesAt mainWithLibs
      (artifactPath (directivePath ["main.script"] ⟨"", "lib/b.script", none⟩)) ["lib", ".b.py"] :=
    fun a => by
      rw [FileTree.write, String.contains_char_eq]
      rfl
  -- only the main script sources, and it sources the two library scripts
  have hsources : ∀ c c', Sources mainWithLibs c c' →
      c = ["main.script"] ∧ (c' = ["lib", "a.script"] ∨ c' = ["lib", "b.script"]) := by
    rintro c c' ⟨t, ht, d, hd, hd'⟩
    have hfind := FileTree.find?_of_read ht
    have hne : c ≠ [] := by
      rintro rfl
      cases hfind
    have hentry := FileTree.mem_entries_of_find? hne hfind
    simp only [mainWithLibs, List.mem_cons, Prod.mk.injEq, Entry.file.injEq, reduceCtorEq,
      and_false, false_or, List.not_mem_nil, or_false] at hentry
    rcases hentry with ⟨rfl, rfl⟩ | ⟨rfl, rfl⟩ | ⟨rfl, rfl⟩
    · rcases hmem d hd with rfl | rfl
      · rw [hcanA, Except.ok.injEq] at hd'
        exact ⟨rfl, .inl hd'.symm⟩
      · rw [hcanB, Except.ok.injEq] at hd'
        exact ⟨rfl, .inr hd'.symm⟩
    · rw [hx] at hd
      cases hd
    · rw [hy] at hd
      cases hd
  have hreach : ∀ c, Relation.ReflTransGen (Sources mainWithLibs) ["main.script"] c →
      c = ["main.script"] ∨ c = ["lib", "a.script"] ∨ c = ["lib", "b.script"] := by
    intro c h
    rcases h.cases_tail with rfl | ⟨c₀, -, hs⟩
    · exact .inl rfl
    · exact .inr (hsources c₀ c hs).2
  have hkeep : ∀ c', Relation.ReflTransGen (Sources mainWithLibs) ["main.script"] c' →
      c' ≠ ["lib", ".a.py"] ∧ c' ≠ ["lib", ".b.py"] := by
    intro c' hc'
    rcases hreach c' hc' with rfl | rfl | rfl <;> simp
  have hmainOk : ScriptOk mainWithLibs
      (Relation.ReflTransGen (Sources mainWithLibs) ["main.script"]) ["main.script"]
      "source lib/a.script\nsource lib/b.script\n" := by
    refine ⟨rfl, markerFree_of_not_mem (by decide), by decide, ?_, ?_⟩
    · intro d hd
      rcases hmem d hd with rfl | rfl
      · exact ⟨_, hcanA⟩
      · exact ⟨_, hcanB⟩
    · intro d hd a
      rcases hmem d hd with rfl | rfl
      · exact ⟨_, hatA a, fun c' hc' => FileTree.read_set_ne _ _ (by simp) (hkeep c' hc').1⟩
      · exact ⟨_, hatB a, fun c' hc' => FileTree.read_set_ne _ _ (by simp) (hkeep c' hc').2⟩
  have hscripts : ∀ c, Relation.ReflTransGen (Sources mainWithLibs) ["main.script"] c →
      ∃ t, ScriptOk mainWithLibs (Relation.ReflTransGen (Sources mainWithLibs) ["main.script"])
        c t := by
    intro c h
    rcases hreach c h with rfl | rfl | rfl
    · exact ⟨_, hmainOk⟩
    · exact ⟨_, .of_directives_eq_nil rfl hx (markerFree_of_not_mem (by decide)) (by decide)⟩
    · exact ⟨_, .of_directives_eq_nil rfl hy (markerFree_of_not_mem (by decide)) (by decide)⟩
  -- every edge of the graph leaves the main script, and its directive fixes where it writes
  have hedge : ∀ c d c' l, ArtifactEdge mainWithLibs ["main.script"] c d c' l →
      (c' = ["lib", "a.script"] ∧ l = ["lib", ".a.py"]) ∨
        (c' = ["lib", "b.script"] ∧ l = ["lib", ".b.py"]) := by
    intro c d c' l he
    obtain ⟨t, ht, hd⟩ := he.mem
    obtain ⟨rfl, -⟩ := hsources c c' ⟨t, ht, d, hd, he.names⟩
    cases (Except.ok.inj ht : "source lib/a.script\nsource lib/b.script\n" = t)
    rcases hmem d hd with rfl | rfl
    · exact .inl ⟨Except.ok.inj (he.names.symm.trans hcanA), (hatA.unique he.writesAt).symm⟩
    · exact .inr ⟨Except.ok.inj (he.names.symm.trans hcanB), (hatB.unique he.writesAt).symm⟩
  have hapart : ArtifactsApart mainWithLibs ["main.script"] := by
    intro c₁ d₁ c₁' c₂ d₂ c₂' l e₁ e₂
    rcases hedge _ _ _ _ e₁ with ⟨rfl, rfl⟩ | ⟨rfl, rfl⟩ <;>
      rcases hedge _ _ _ _ e₂ with ⟨rfl, h⟩ | ⟨rfl, h⟩ <;> simp_all
  -- the graph is one level deep and has no cycle, so the compile succeeds
  have hfit : ImportsFit mainWithLibs [] ["main.script"] 1 := by
    rw [importsFit_succ_iff]
    refine ⟨by simp, fun c' hc' => importsFit_zero_iff.2 ⟨?_, fun c'' hc'' => ?_⟩⟩
    · rcases (hsources _ _ hc').2 with rfl | rfl <;> simp
    · have hfrom := (hsources _ _ hc'').1
      rcases (hsources _ _ hc').2 with rfl | rfl <;> simp at hfrom
  obtain ⟨t₀, hok₀⟩ := hscripts ["main.script"] .refl
  have hg : FollowsGraph mainWithLibs ["main.script"] 1 1 [] ["main.script"] t₀ mainWithLibs :=
    followsGraph hc hscripts 1 [] ["main.script"] t₀ mainWithLibs (List.isChain_singleton _) rfl
      (List.pairwise_singleton _ _) hok₀.read (Reached.refl _ _)
  obtain ⟨out, fs', hrun⟩ := hg.ok_iff.2 hfit
  have hrun' : compile 1 (.file ⟨"main.script"⟩) mainWithLibs = .ok (out, fs') := by
    rw [compile_file_apply hroot hok₀.read]
    exact hrun
  exact ⟨hc, hroot, hscripts, hapart, out, fs', hrun',
    compile_file_artifacts_hold_programs hc hroot hscripts hapart hrun'⟩

end Compile
end MixedScript

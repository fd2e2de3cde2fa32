import MixedScript.Compile

/-!
# A compiler session gives its compiler back

Every step that changes the compiler's stack or depth is undone on the way out, whether the
compile returned or stopped. `run_tracks` says this by simulation of the compile on the file
tree alone, and `run_restores_compiler` adds that a stack without repeats never comes into play.
-/

namespace MixedScript
namespace Compile

theorem bind_apply {α β : Type} (x : CompileM α) (f : α → CompileM β) (fs : FileTree) :
    (x >>= f) fs = match x fs with
      | .ok (a, fs') => f a fs'
      | .error e => .error e := by
  change (StateT.bind x f) fs = _
  unfold StateT.bind
  cases x fs <;> rfl

theorem enter_apply (stack : List Location) (p : Path) (fs : FileTree) :
    enter stack p fs = match fs.canonicalize p with
      | .error e => .error (.io p e)
      | .ok loc =>
        if stack.contains loc then .error (.cyclic ((stack ++ [loc]).map FileTree.pathOf))
        else .ok (loc, fs) := by
  unfold enter
  change (StateT.bind _ _) fs = _
  unfold StateT.bind
  dsimp only [get, getThe, MonadStateOf.get, StateT.get, pure, Except.pure, bind, Except.bind]
  cases fs.canonicalize p with
  | error e => rfl
  | ok loc =>
    dsimp only
    split <;> rfl

theorem readScript_apply (loc : Location) (p : Path) (fs : FileTree) :
    readScript loc p fs = match fs.read loc with
      | .ok t => .ok (t, fs)
      | .error e => .error (.io p e) := by
  unfold readScript
  change (StateT.bind _ _) fs = _
  unfold StateT.bind
  dsimp only [get, getThe, MonadStateOf.get, StateT.get, pure, Except.pure, bind, Except.bind]
  cases fs.read loc <;> rfl

theorem writeArtifact_apply (a : Path) (t : String) (fs : FileTree) :
    writeArtifact a t fs = match fs.write a t with
      | .ok fs' => .ok ((), fs')
      | .error e => .error (.io a e) := by
  unfold writeArtifact
  change (StateT.bind _ _) fs = _
  unfold StateT.bind
  dsimp only [get, getThe, MonadStateOf.get, StateT.get, pure, Except.pure, bind, Except.bind]
  cases fs.write a t <;> rfl

/-- How a compile with the stack `stack` and `room` levels left loads a sourced script. -/
def sourceLoad (m room : Nat) (stack : List Location) (script : Path) : CompileM String :=
  match room with
  | 0 => throw (.depthExceeded m script)
  | r + 1 => do
    let loc ← enter stack script
    let text ← readScript loc script
    compileText m r (stack ++ [loc]) text (baseOf loc)

theorem compileText_eq_compileWith (m room : Nat) (stack : List Location) (src : String)
    (base : Path) :
    compileText m room stack src base = compileWith (sourceLoad m room stack) src base := by
  cases room <;> rfl

/-- The compile on the file tree alone that a request runs from the compiler `c`. -/
def runFrom (c : Compiler) : CompileRequest → CompileM String
  | .text src base => compileText c.maxImportDepth c.room c.stack src base
  | .file p => do
    let loc ← enter c.stack p
    let text ← readScript loc p
    compileText c.maxImportDepth c.room (c.stack ++ [loc]) text (baseOf loc)
  | .source src p => do
    let loc ← enter c.stack p
    compileText c.maxImportDepth c.room (c.stack ++ [loc]) src (baseOf loc)

theorem nodup_snoc {s : List Location} {c : Location} (hs : s.Nodup) (hc : c ∉ s) :
    (s ++ [c]).Nodup :=
  List.nodup_append.2 ⟨hs, List.pairwise_singleton _ c, fun a ha b hb hab => by
    rw [List.mem_singleton] at hb
    subst hb hab
    exact hc ha⟩

/-- A script that sources a library script, which sources nothing. -/
def mainWithLib : FileTree :=
  ⟨[(["main.script"], .file "source lib/a.script\n"), (["lib"], .dir),
    (["lib", "a.script"], .file "x = 1\n")], []⟩

end Compile

namespace Compiler

variable (c : Compiler) (loc : Location)

@[simp] theorem descend_depth : c.descend.depth = c.depth + 1 := rfl
@[simp] theorem descend_maxImportDepth : c.descend.maxImportDepth = c.maxImportDepth := rfl

@[simp] theorem pop_push : (c.push loc).pop = c := by
  simp [push, pop]

@[simp] theorem ascend_descend : c.descend.ascend = c := by
  simp [descend, ascend]

@[simp] theorem room_push : (c.push loc).room = c.room := rfl

theorem room_descend : c.descend.room = c.room - 1 := by
  simp only [room, descend_maxImportDepth, descend_depth]
  omega

end Compiler

namespace Session

variable {α β : Type}

theorem bind_apply (x : SessionM α) (f : α → SessionM β) (s : Compiler × FileTree) :
    (x >>= f) s = match x s with
      | .ok a s' => f a s'
      | .error e s' => .error e s' := by
  change EStateM.bind x f s = _
  unfold EStateM.bind
  cases x s <;> rfl

theorem compiler_apply (s : Compiler × FileTree) : compiler s = .ok s.1 s :=
  rfl

theorem modifyCompiler_apply (f : Compiler → Compiler) (s : Compiler × FileTree) :
    modifyCompiler f s = .ok () (f s.1, s.2) :=
  rfl

theorem observing_apply (x : SessionM α) (s : Compiler × FileTree) :
    observing x s = match x s with
      | .ok a s' => .ok (.ok a) s'
      | .error e s' => .ok (.error e) s' := by
  change EStateM.tryCatch _ _ s = _
  unfold EStateM.tryCatch
  dsimp only
  rw [bind_apply]
  cases x s <;> rfl

/-- A session result with its compiler changed by `f`, as a step that undoes a change leaves it
whatever the outcome. -/
def mapCompiler (f : Compiler → Compiler) :
    EStateM.Result CompileError (Compiler × FileTree) α →
      EStateM.Result CompileError (Compiler × FileTree) α
  | .ok a s => .ok a (f s.1, s.2)
  | .error e s => .error e (f s.1, s.2)

theorem compileAt_apply (cs : String → Path → SessionM String) (loc : Location) (src : String)
    (s : Compiler × FileTree) :
    compileAt cs loc src s =
      mapCompiler Compiler.pop (cs src (Compile.baseOf loc) (s.1.push loc, s.2)) := by
  simp only [compileAt, bind_apply, modifyCompiler_apply, observing_apply]
  cases cs src (Compile.baseOf loc) (s.1.push loc, s.2) <;> rfl

theorem importWith_apply (cs : String → Path → SessionM String) (script : Path)
    (s : Compiler × FileTree) :
    importWith cs script s =
      if s.1.maxImportDepth ≤ s.1.depth then .error (.depthExceeded s.1.maxImportDepth script) s
      else mapCompiler Compiler.ascend (compilePath cs script (s.1.descend, s.2)) := by
  simp only [importWith, bind_apply, compiler_apply]
  by_cases h : s.1.maxImportDepth ≤ s.1.depth
  · simp only [h, if_true]
    rfl
  · simp only [h, if_false]
    simp only [bind_apply, modifyCompiler_apply, observing_apply]
    cases compilePath cs script (s.1.descend, s.2) <;> rfl

theorem onTree_apply (x : CompileM α) (c : Compiler) (fs : FileTree) :
    onTree x (c, fs) = match x fs with
      | .ok (a, fs') => .ok a (c, fs')
      | .error e => .error e (c, fs) :=
  rfl

theorem compiler_bind_apply (k : Compiler → SessionM α) (c : Compiler) (fs : FileTree) :
    (compiler >>= k) (c, fs) = k c (c, fs) := by
  rw [bind_apply, compiler_apply]

theorem enter_apply (p : Path) (c : Compiler) (fs : FileTree) :
    enter p (c, fs) = match fs.canonicalize p with
      | .error e => .error (.io p e) (c, fs)
      | .ok loc =>
        if c.stack.contains loc then .error (.cyclic ((c.stack ++ [loc]).map FileTree.pathOf)) (c, fs)
        else .ok loc (c, fs) := by
  change onTree (Compile.enter c.stack p) (c, fs) = _
  unfold onTree
  rw [Compile.enter_apply]
  cases fs.canonicalize p with
  | error e => rfl
  | ok loc =>
    dsimp only
    by_cases h : c.stack.contains loc = true
    · rw [if_pos h, if_pos h]
    · rw [if_neg h, if_neg h]

/-- The compiler a session step ends with, whether it returns a value or stops with an error. -/
def compilerOf : EStateM.Result CompileError (Compiler × FileTree) α → Compiler
  | .ok _ s => s.1
  | .error _ s => s.1

/-- A session result that a compile on the file tree alone gives too, ending with the compiler
`c`: the same value and tree on success, the same error on failure. -/
def Agrees (c : Compiler) :
    EStateM.Result CompileError (Compiler × FileTree) α → Except CompileError (α × FileTree) → Prop
  | .ok a s, .ok (b, fs) => a = b ∧ s = (c, fs)
  | .error e s, .error e' => e = e' ∧ s.1 = c
  | _, _ => False

theorem Agrees.compilerOf {c : Compiler} {r : EStateM.Result CompileError (Compiler × FileTree) α}
    {t : Except CompileError (α × FileTree)} (h : Agrees c r t) : compilerOf r = c := by
  match r, t, h with
  | .ok _ _, .ok _, ⟨_, hs⟩ => rw [hs]; rfl
  | .error _ _, .error _, ⟨_, hs⟩ => exact hs

theorem Agrees.mapCompiler {c c' : Compiler} {f : Compiler → Compiler}
    {r : EStateM.Result CompileError (Compiler × FileTree) α}
    {t : Except CompileError (α × FileTree)} (h : Agrees c' r t) (hf : f c' = c) :
    Agrees c (Session.mapCompiler f r) t := by
  match r, t, h with
  | .ok _ _, .ok _, ⟨ha, hs⟩ => exact ⟨ha, by simp [hs, hf]⟩
  | .error _ _, .error _, ⟨he, hs⟩ => exact ⟨he, by simp [hs, hf]⟩

/-- A session step that, run from the compiler `c`, does what a compile on the file tree does,
and gives `c` back. -/
def Tracks (c : Compiler) (x : SessionM α) (y : CompileM α) : Prop :=
  ∀ fs, Agrees c (x (c, fs)) (y fs)

section Tracks

variable {c : Compiler}

theorem Tracks.pure (a : α) : Tracks c (Pure.pure a) (Pure.pure a) :=
  fun _ => ⟨rfl, rfl⟩

theorem Tracks.throw (e : CompileError) : Tracks c (MonadExcept.throw e : SessionM α)
    (MonadExcept.throw e : CompileM α) :=
  fun _ => ⟨rfl, rfl⟩

theorem Tracks.onTree (x : CompileM α) : Tracks c (Session.onTree x) x := by
  intro fs
  change Agrees c (match x fs with
    | .ok (a, fs') => .ok a (c, fs')
    | .error e => .error e (c, fs)) (x fs)
  cases x fs with
  | ok p => exact ⟨rfl, rfl⟩
  | error e => exact ⟨rfl, rfl⟩

theorem Tracks.bind {x : SessionM α} {y : CompileM α} {f : α → SessionM β}
    {g : α → CompileM β} (hx : Tracks c x y) (hf : ∀ a, Tracks c (f a) (g a)) :
    Tracks c (x >>= f) (y >>= g) := by
  intro fs
  rw [bind_apply, Compile.bind_apply]
  have h := hx fs
  revert h
  cases x (c, fs) with
  | ok a s =>
    cases y fs with
    | ok p =>
      obtain ⟨b, fs'⟩ := p
      rintro ⟨rfl, rfl⟩
      exact hf _ fs'
    | error e => exact False.elim
  | error e s =>
    cases y fs with
    | ok p => exact False.elim
    | error e' => exact id

theorem Tracks.compiler_bind {k : Compiler → SessionM α} {y : CompileM α}
    (h : Tracks c (k c) y) : Tracks c (compiler >>= k) y :=
  fun fs => by
    rw [bind_apply, compiler_apply]
    exact h fs

theorem enter_tracks (p : Path) : Tracks c (enter p) (Compile.enter c.stack p) :=
  fun fs => Tracks.onTree (Compile.enter c.stack p) fs

theorem expand_tracks {load : Path → SessionM String} {load' : Path → CompileM String}
    (hload : ∀ p, Tracks c (load p) (load' p)) (base : Path) :
    ∀ lines, Tracks c (expand load base lines) (Compile.expandLines load' base lines)
  | [] => Tracks.pure _
  | line :: rest => by
    rw [expand, Compile.expandLines]
    cases Directive.parse? line with
    | none => exact (expand_tracks hload base rest).bind fun _ => Tracks.pure _
    | some d =>
      exact (hload _).bind fun _ => (Tracks.onTree _).bind fun _ =>
        (expand_tracks hload base rest).bind fun _ => Tracks.pure _

theorem compileStrWith_tracks {load : Path → SessionM String} {load' : Path → CompileM String}
    (hload : ∀ p, Tracks c (load p) (load' p)) (src : String) (base : Path) :
    Tracks c (compileStrWith load src base) (Compile.compileWith load' src base) := by
  refine (expand_tracks hload base _).bind fun ⟨expanded, bound⟩ => ?_
  dsimp only
  cases Compile.emit src (Layout.ofSource src) expanded bound with
  | ok out => exact Tracks.pure out
  | error e => exact Tracks.throw e

theorem compileAt_tracks {cs : String → Path → SessionM String} {y : CompileM String}
    {loc : Location} {src : String} (h : Tracks (c.push loc) (cs src (Compile.baseOf loc)) y) :
    Tracks c (compileAt cs loc src) y := by
  intro fs
  rw [compileAt_apply]
  exact (h fs).mapCompiler (Compiler.pop_push c loc)

theorem compilePath_tracks {cs : String → Path → SessionM String}
    {y : Location → String → CompileM String}
    (h : ∀ loc src, Tracks (c.push loc) (cs src (Compile.baseOf loc)) (y loc src)) (p : Path) :
    Tracks c (compilePath cs p) (Compile.enter c.stack p >>= fun loc =>
      Compile.readScript loc p >>= fun src => y loc src) :=
  (enter_tracks p).bind fun loc => (Tracks.onTree _).bind fun src => compileAt_tracks (h loc src)

theorem importWith_tracks {cs : String → Path → SessionM String} {script : Path}
    {y : CompileM String} (hd : c.depth < c.maxImportDepth)
    (h : Tracks c.descend (compilePath cs script) y) : Tracks c (importWith cs script) y := by
  intro fs
  rw [importWith_apply]
  dsimp only
  rw [if_neg (Nat.not_le.2 hd)]
  exact (h fs).mapCompiler (Compiler.ascend_descend c)

theorem compileImport_tracks : ∀ (n : Nat) (c : Compiler), c.room = n → ∀ script,
    Tracks c (compileImport n script) (Compile.sourceLoad c.maxImportDepth n c.stack script)
  | 0, c, _, script => fun _ => ⟨rfl, rfl⟩
  | n + 1, c, hroom, script => by
    have hd : c.depth < c.maxImportDepth := by
      unfold Compiler.room at hroom
      omega
    refine importWith_tracks hd (compilePath_tracks (fun loc src => ?_) script)
    have hroom' : (c.descend.push loc).room = n := by
      rw [Compiler.room_push, Compiler.room_descend, hroom, Nat.add_sub_cancel]
    rw [Compile.compileText_eq_compileWith]
    exact compileStrWith_tracks (fun p => compileImport_tracks n _ hroom' p) src _

/-- From any compiler, a request does what the file-tree compile does with the compiler's stack
and room, and gives the compiler back as it found it. -/
theorem run_tracks (c : Compiler) : ∀ req, Tracks c (run req) (Compile.runFrom c req)
  | .text src base => Tracks.compiler_bind (by
      rw [Compile.runFrom, Compile.compileText_eq_compileWith]
      exact compileStrWith_tracks (compileImport_tracks c.room c rfl) src base)
  | .file p => Tracks.compiler_bind (compilePath_tracks (fun loc src => by
      rw [Compile.compileText_eq_compileWith]
      exact compileStrWith_tracks (compileImport_tracks c.room (c.push loc) rfl) src _) p)
  | .source src p => (enter_tracks p).bind fun loc => Tracks.compiler_bind (by
      rw [Compile.compileText_eq_compileWith]
      exact compileAt_tracks
        (compileStrWith_tracks (compileImport_tracks c.room (c.push loc) rfl) src _))

end Tracks

theorem compile_eq_runFrom (m : Nat) (req : CompileRequest) :
    compile m req = Compile.runFrom (Compiler.withMaxImportDepth m) req := by
  funext fs
  have h := run_tracks (Compiler.withMaxImportDepth m) req fs
  unfold compile
  revert h
  cases run req (Compiler.withMaxImportDepth m, fs) with
  | ok out s =>
    cases Compile.runFrom (Compiler.withMaxImportDepth m) req fs with
    | ok p =>
      obtain ⟨b, fs'⟩ := p
      rintro ⟨rfl, rfl⟩
      rfl
    | error e => exact False.elim
  | error e s =>
    cases Compile.runFrom (Compiler.withMaxImportDepth m) req fs with
    | ok p => exact False.elim
    | error e' =>
      rintro ⟨rfl, -⟩
      rfl

/-! ## The stack holds no script twice -/

/-- A compile of script text that first checks that the stack holds no script twice, and
reports the stack as a cycle when it does. -/
def checked (compileScript : String → Path → SessionM String) :
    String → Path → SessionM String :=
  fun src base s =>
    if s.1.stack.Nodup then compileScript src base s
    else .error (.cyclic (s.1.stack.map FileTree.pathOf)) s

/-- The nested compile of a session that checks the stack before each script it compiles. -/
def checkedImport : Nat → Path → SessionM String
  | 0, script => compileImport 0 script
  | n + 1, script => importWith (checked (compileStrWith (checkedImport n))) script

/-- A request run with the stack checked before each script is compiled. -/
def checkedRun : CompileRequest → SessionM String
  | .text src base => do checked (compileStrWith (checkedImport (← compiler).room)) src base
  | .file p => do compilePath (checked (compileStrWith (checkedImport (← compiler).room))) p
  | .source src p => do
    let loc ← enter p
    compileAt (checked (compileStrWith (checkedImport (← compiler).room))) loc src

theorem checked_of_nodup {cs : String → Path → SessionM String} {src : String} {base : Path}
    {s : Compiler × FileTree} (h : s.1.stack.Nodup) : checked cs src base s = cs src base s :=
  if_pos h

section Congr

variable {c : Compiler}

theorem expand_congr {load₁ load₂ : Path → SessionM String}
    (h : ∀ p fs, load₁ p (c, fs) = load₂ p (c, fs))
    (hk : ∀ p fs, compilerOf (load₁ p (c, fs)) = c) (base : Path) :
    ∀ lines fs, expand load₁ base lines (c, fs) = expand load₂ base lines (c, fs)
  | [], _ => rfl
  | line :: rest, fs => by
    rw [expand, expand]
    cases Directive.parse? line with
    | none =>
      dsimp only
      rw [bind_apply, bind_apply, expand_congr h hk base rest fs]
    | some d =>
      dsimp only
      rw [bind_apply, bind_apply, ← h]
      have hc := hk (base.join ⟨d.path⟩) fs
      revert hc
      cases load₁ (base.join ⟨d.path⟩) (c, fs) with
      | error e s => exact fun _ => rfl
      | ok body s =>
        obtain ⟨c', fs'⟩ := s
        intro (hc : c' = c)
        subst c'
        dsimp only
        rw [bind_apply, bind_apply, onTree_apply]
        cases Compile.writeArtifact _ _ fs' with
        | error e => rfl
        | ok p =>
          dsimp only
          rw [bind_apply, bind_apply, expand_congr h hk base rest p.2]

theorem compileStrWith_congr {load₁ load₂ : Path → SessionM String}
    (h : ∀ p fs, load₁ p (c, fs) = load₂ p (c, fs))
    (hk : ∀ p fs, compilerOf (load₁ p (c, fs)) = c) (src : String) (base : Path) (fs : FileTree) :
    compileStrWith load₁ src base (c, fs) = compileStrWith load₂ src base (c, fs) := by
  simp only [compileStrWith]
  rw [bind_apply, bind_apply, expand_congr h hk]

theorem compileAt_congr {cs₁ cs₂ : String → Path → SessionM String} {loc : Location}
    {src : String} (h : ∀ fs, cs₁ src (Compile.baseOf loc) (c.push loc, fs) =
      cs₂ src (Compile.baseOf loc) (c.push loc, fs)) (fs : FileTree) :
    compileAt cs₁ loc src (c, fs) = compileAt cs₂ loc src (c, fs) := by
  rw [compileAt_apply, compileAt_apply]
  dsimp only
  rw [h]

theorem compilePath_congr {cs₁ cs₂ : String → Path → SessionM String}
    (h : ∀ loc src fs, loc ∉ c.stack → cs₁ src (Compile.baseOf loc) (c.push loc, fs) =
      cs₂ src (Compile.baseOf loc) (c.push loc, fs)) (p : Path) (fs : FileTree) :
    compilePath cs₁ p (c, fs) = compilePath cs₂ p (c, fs) := by
  simp only [compilePath]
  rw [bind_apply, bind_apply, enter_apply]
  cases fs.canonicalize p with
  | error e => rfl
  | ok loc =>
    dsimp only
    by_cases hmem : c.stack.contains loc = true
    · rw [if_pos hmem]
    · rw [if_neg hmem]
      dsimp only
      rw [bind_apply, bind_apply, onTree_apply]
      cases Compile.readScript loc p fs with
      | error e => rfl
      | ok q =>
        dsimp only
        exact compileAt_congr (h loc q.1 · (by simpa using hmem)) q.2

theorem importWith_congr {cs₁ cs₂ : String → Path → SessionM String} {script : Path}
    (h : ∀ fs, compilePath cs₁ script (c.descend, fs) = compilePath cs₂ script (c.descend, fs))
    (fs : FileTree) : importWith cs₁ script (c, fs) = importWith cs₂ script (c, fs) := by
  rw [importWith_apply, importWith_apply]
  dsimp only
  rw [h]

end Congr

theorem compileStrWith_eq_checked {n : Nat} {c : Compiler} (hroom : c.room = n)
    (hnd : c.stack.Nodup)
    (hbelow : ∀ script fs, compileImport n script (c, fs) = checkedImport n script (c, fs))
    (src : String) (base : Path) (fs : FileTree) :
    compileStrWith (compileImport n) src base (c, fs) =
      checked (compileStrWith (checkedImport n)) src base (c, fs) := by
  rw [checked_of_nodup hnd]
  exact compileStrWith_congr hbelow (fun p fs => ((compileImport_tracks n c hroom p) fs).compilerOf)
    src base fs

theorem compileImport_eq_checkedImport : ∀ (n : Nat) (c : Compiler), c.room = n →
    c.stack.Nodup → ∀ script fs, compileImport n script (c, fs) = checkedImport n script (c, fs)
  | 0, _, _, _, _, _ => rfl
  | n + 1, c, hroom, hnd, script, fs => by
    rw [compileImport, checkedImport]
    refine importWith_congr (fun fs => compilePath_congr (fun loc src fs hloc => ?_) _ fs) fs
    have hroom' : (c.descend.push loc).room = n := by
      rw [Compiler.room_push, Compiler.room_descend, hroom, Nat.add_sub_cancel]
    have hnd' : (c.descend.push loc).stack.Nodup := Compile.nodup_snoc hnd hloc
    exact compileStrWith_eq_checked hroom' hnd' (compileImport_eq_checkedImport n _ hroom' hnd')
      src _ fs

theorem run_eq_checkedRun {c : Compiler} (hnd : c.stack.Nodup) (fs : FileTree) :
    ∀ req, run req (c, fs) = checkedRun req (c, fs)
  | .text src base => by
    simp only [run, checkedRun, compileStr, compiler_bind_apply]
    exact compileStrWith_eq_checked rfl hnd (compileImport_eq_checkedImport _ c rfl hnd) src base fs
  | .file p => by
    simp only [run, checkedRun, compileFile, compiler_bind_apply]
    refine compilePath_congr (fun loc src fs hloc => ?_) p fs
    have hnd' : (c.push loc).stack.Nodup := Compile.nodup_snoc hnd hloc
    exact compileStrWith_eq_checked rfl hnd' (compileImport_eq_checkedImport _ _ rfl hnd') src _ fs
  | .source src p => by
    simp only [run, checkedRun, compileSource]
    rw [bind_apply, bind_apply, enter_apply]
    cases fs.canonicalize p with
    | error e => rfl
    | ok loc =>
      dsimp only
      by_cases hmem : c.stack.contains loc = true
      · rw [if_pos hmem]
      · rw [if_neg hmem]
        dsimp only
        rw [compiler_bind_apply, compiler_bind_apply]
        have hnd' : (c.push loc).stack.Nodup := Compile.nodup_snoc hnd (by simpa using hmem)
        exact compileAt_congr (compileStrWith_eq_checked rfl hnd'
          (compileImport_eq_checkedImport _ _ rfl hnd') src _) fs

/-- A compiler gives back its stack and depth after every request, whether the compile returns
or stops with an error; and from a stack that holds no script twice, the stack never comes to
hold one twice: checking it before each script is compiled changes nothing. -/
theorem run_restores_compiler (req : CompileRequest) (c : Compiler) (fs : FileTree) :
    compilerOf (run req (c, fs)) = c ∧
      (c.stack.Nodup → run req (c, fs) = checkedRun req (c, fs)) :=
  ⟨(run_tracks c req fs).compilerOf, fun hnd => run_eq_checkedRun hnd fs req⟩

theorem run_restores_compiler_nested :
    compilerOf (run (.file ⟨"main.script"⟩) (⟨2, [["outer.script"]], 1⟩, Compile.mainWithLib)) =
      ⟨2, [["outer.script"]], 1⟩ ∧ ([["outer.script"]] : List Location).Nodup ∧
    run (.file ⟨"main.script"⟩) (⟨2, [["outer.script"]], 1⟩, Compile.mainWithLib) =
      checkedRun (.file ⟨"main.script"⟩) (⟨2, [["outer.script"]], 1⟩, Compile.mainWithLib) := by
  have hnd : ([["outer.script"]] : List Location).Nodup := List.pairwise_singleton _ _
  obtain ⟨hkeep, hcheck⟩ := run_restores_compiler (.file ⟨"main.script"⟩)
    ⟨2, [["outer.script"]], 1⟩ Compile.mainWithLib
  exact ⟨hkeep, hnd, hcheck hnd⟩

end Session
end MixedScript

import Mathlib.Tactic.SplitIfs
import MixedScript.FileTree

/-!
# Writing files keeps how paths resolve

`FileTree.Written fs fs'` says that `fs'` is `fs` with files written into it. In a tree whose
locations all sit in directories (`FileTree.Closed`), a path keeps resolving to the same
location after such writes, and a write that succeeded succeeds again at the same location.
-/

namespace MixedScript
namespace FileTree

theorem lookup_filter_ne {α β : Type} [BEq α] [LawfulBEq α] {a b : α} (h : a ≠ b) :
    ∀ l : List (α × β), (l.filter fun p => p.1 != b).lookup a = l.lookup a
  | [] => rfl
  | (k, v) :: l => by
    by_cases hk : k = b
    · subst hk
      have hak : (a == k) = false := by simpa using h
      simp [List.lookup_cons, hak, lookup_filter_ne h l]
    · simp [hk, List.lookup_cons, lookup_filter_ne h l]

@[simp] theorem find?_nil (fs : FileTree) : fs.find? [] = some .dir := rfl

theorem find?_set (fs : FileTree) {l l' : Location} (e : Entry) (hl : l ≠ []) :
    (fs.set l e).find? l' = if l' = l then some e else fs.find? l' := by
  by_cases h : l' = l
  · subst h
    simp [find?, set, hl]
  · by_cases h' : l' = []
    · subst h'; simp [h]
    · have hb : (l' == l) = false := by simpa using h
      simp [find?, set, List.lookup_cons, h, h', hb, lookup_filter_ne h]

theorem read_set_ne (fs : FileTree) {l c : Location} (e : Entry) (hl : l ≠ []) (h : c ≠ l) :
    (fs.set l e).read c = fs.read c := by
  simp [read, find?_set _ _ hl, h]

theorem mem_entries_of_find? {fs : FileTree} {l : Location} {e : Entry} (hl : l ≠ [])
    (h : fs.find? l = some e) : (l, e) ∈ fs.entries := by
  simp only [find?, List.isEmpty_iff, hl, if_false] at h
  obtain ⟨l₁, l₂, he, -⟩ := List.lookup_eq_some_iff.1 h
  simp [he]

theorem find?_of_read {fs : FileTree} {l : Location} {t : String} (h : fs.read l = .ok t) :
    fs.find? l = some (.file t) := by
  unfold read at h
  split at h
  · rename_i t' ht'
    cases h
    exact ht'
  · cases h
  · cases h

/-- Every location of a tree sits in a directory, and its working directory exists. -/
structure Closed (fs : FileTree) : Prop where
  parent : ∀ p ∈ fs.entries, fs.find? p.1.dropLast = some .dir
  cwd : fs.find? fs.cwd ≠ none

theorem Closed.of_all {fs : FileTree}
    (h : fs.entries.all (fun p => decide (fs.find? p.1.dropLast = some .dir)) = true)
    (hcwd : fs.find? fs.cwd ≠ none) : fs.Closed :=
  ⟨fun p hp => of_decide_eq_true (List.all_eq_true.1 h p hp), hcwd⟩

theorem Closed.find?_dropLast {fs : FileTree} (hc : fs.Closed) {l : Location}
    (hl : fs.find? l ≠ none) : fs.find? l.dropLast = some .dir := by
  by_cases h : l = []
  · subst h; rfl
  · obtain ⟨e, he⟩ := Option.ne_none_iff_exists'.1 hl
    exact hc.parent _ (mem_entries_of_find? h he)

/-- `fs'` is `fs` after files were written: the same working directory and directories, and
every location of `fs` still there; what is new is a file. -/
structure Written (fs fs' : FileTree) : Prop where
  cwd : fs'.cwd = fs.cwd
  dir_iff : ∀ l, fs'.find? l = some .dir ↔ fs.find? l = some .dir
  present : ∀ l, fs.find? l ≠ none → fs'.find? l ≠ none

namespace Written

variable {fs fs' fs'' : FileTree}

theorem refl (fs : FileTree) : Written fs fs := ⟨rfl, fun _ => Iff.rfl, fun _ h => h⟩

theorem trans (h₁ : Written fs fs') (h₂ : Written fs' fs'') : Written fs fs'' :=
  ⟨h₂.cwd.trans h₁.cwd, fun l => (h₂.dir_iff l).trans (h₁.dir_iff l),
    fun l h => h₂.present l (h₁.present l h)⟩

theorem set {l : Location} (t : String) (hl : l ≠ []) (hd : fs.find? l ≠ some .dir) :
    Written fs (fs.set l (.file t)) := by
  refine ⟨rfl, fun l' => ?_, fun l' h => ?_⟩
  · rw [find?_set _ _ hl]
    split_ifs with h
    · subst h; simpa using hd
    · rfl
  · rw [find?_set _ _ hl]
    split_ifs <;> simp_all

theorem file (hw : Written fs fs') {l : Location} {t : String} (h : fs.find? l = some (.file t)) :
    ∃ t', fs'.find? l = some (.file t') := by
  have hp := hw.present l (by simp [h])
  have hd : fs'.find? l ≠ some .dir := fun h' => by simp [(hw.dir_iff l).1 h'] at h
  obtain ⟨e, he⟩ := Option.ne_none_iff_exists'.1 hp
  cases e with
  | dir => exact absurd he hd
  | file t' => exact ⟨t', he⟩

theorem startOf (hw : Written fs fs') (p : Path) : fs'.startOf p = fs.startOf p := by
  simp [FileTree.startOf, hw.cwd]

end Written

theorem walkDirs_written {fs fs' : FileTree} (hw : Written fs fs') :
    ∀ {cur : Location} {segs : List (List Char)} {r : Location},
      fs.walkDirs cur segs = .ok r → fs'.walkDirs cur segs = .ok r
  | cur, [], r, h => h
  | cur, seg :: rest, r, h => by
    unfold walkDirs at h ⊢
    by_cases h₁ : (seg.isEmpty || seg == ['.']) = true
    · rw [if_pos h₁] at h ⊢
      exact walkDirs_written hw h
    rw [if_neg h₁] at h ⊢
    by_cases h₂ : (seg == ['.', '.']) = true
    · rw [if_pos h₂] at h ⊢
      exact walkDirs_written hw h
    rw [if_neg h₂] at h ⊢
    by_cases h₃ : Text.byteLength seg > nameMax
    · rw [if_pos h₃] at h
      cases h
    rw [if_neg h₃] at h ⊢
    dsimp only at h ⊢
    cases hn : fs.find? (cur ++ [String.ofList seg]) with
    | none => simp [hn] at h
    | some e =>
      cases e with
      | file t =>
        rw [hn] at h
        cases h
      | dir =>
        rw [hn] at h
        rw [(hw.dir_iff _).2 hn]
        exact walkDirs_written hw h

theorem resolveFrom_written {fs fs' : FileTree} (hc : fs.Closed) (hw : Written fs fs') :
    ∀ {cur : Location} {segs : List (List Char)} {r : Location}, fs.find? cur ≠ none →
      fs.resolveFrom cur segs = .ok r → fs'.resolveFrom cur segs = .ok r
  | cur, [], r, _, h => h
  | cur, seg :: rest, r, hcur, h => by
    unfold resolveFrom at h ⊢
    by_cases h₁ : (seg.isEmpty || seg == ['.']) = true
    · rw [if_pos h₁] at h ⊢
      exact resolveFrom_written hc hw hcur h
    rw [if_neg h₁] at h ⊢
    by_cases h₂ : (seg == ['.', '.']) = true
    · rw [if_pos h₂] at h ⊢
      exact resolveFrom_written hc hw (by simp [hc.find?_dropLast hcur]) h
    rw [if_neg h₂] at h ⊢
    dsimp only at h ⊢
    by_cases h₃ : pathTooLong (pathOf (cur ++ [String.ofList seg])).text = true
    · rw [if_pos h₃] at h
      cases h
    rw [if_neg h₃] at h ⊢
    have hdir : fs.find? cur = some .dir := by
      cases hcf : fs.find? cur with
      | none => exact absurd hcf hcur
      | some e =>
        cases e with
        | file t =>
          rw [hcf] at h
          cases h
        | dir => rfl
    rw [hdir] at h
    rw [(hw.dir_iff cur).2 hdir]
    dsimp only at h ⊢
    by_cases h₄ : Text.byteLength seg > nameMax
    · rw [if_pos h₄] at h
      cases h
    rw [if_neg h₄] at h ⊢
    have hnext : fs.find? (cur ++ [String.ofList seg]) ≠ none := by
      intro hn
      rw [hn] at h
      cases h
    obtain ⟨e, he⟩ := Option.ne_none_iff_exists'.1 hnext
    rw [he] at h
    cases e with
    | dir =>
      rw [(hw.dir_iff _).2 he]
      dsimp only at h ⊢
      by_cases hn : needsDirectory rest = true
      · rw [if_pos hn] at h ⊢
        by_cases hl : pathTooLong ((pathOf (cur ++ [String.ofList seg])).text ++ "/") = true
        · rw [if_pos hl] at h
          cases h
        · rw [if_neg hl] at h ⊢
          exact resolveFrom_written hc hw hnext h
      · rw [if_neg hn] at h ⊢
        exact resolveFrom_written hc hw hnext h
    | file t =>
      obtain ⟨t', ht'⟩ := hw.file he
      rw [ht']
      dsimp only at h ⊢
      by_cases hn : needsDirectory rest = true
      · rw [if_pos hn] at h
        split_ifs at h
      · rw [if_neg hn] at h ⊢
        exact resolveFrom_written hc hw hnext h

theorem find?_startOf_ne_none {fs : FileTree} (hc : fs.Closed) (p : Path) :
    fs.find? (fs.startOf p) ≠ none := by
  unfold startOf
  split_ifs
  · simp
  · exact hc.cwd

theorem canonicalize_written {fs fs' : FileTree} (hc : fs.Closed) (hw : Written fs fs')
    {p : Path} {r : Location} (h : fs.canonicalize p = .ok r) : fs'.canonicalize p = .ok r := by
  unfold canonicalize at h ⊢
  split_ifs at h ⊢
  rw [hw.startOf]
  exact resolveFrom_written hc hw (find?_startOf_ne_none hc p) h

theorem write_eq (fs : FileTree) (p : Path) (t : String) : fs.write p t =
    if p.text.contains '\x00' then .error .nulCharacter
    else if pathTooLong p.text then .error .nameTooLong
    else match fs.walkDirs (fs.startOf p) (p.text.toList.splitOn '/').dropLast with
      | .error e => .error e
      | .ok dir =>
        let name := (p.text.toList.splitOn '/').getLastD []
        if name.isEmpty || name == ['.'] || name == ['.', '.'] then .error .isADirectory
        else if Text.byteLength name > nameMax then .error .nameTooLong
        else match fs.find? (dir ++ [String.ofList name]) with
          | some .dir => .error .isADirectory
          | _ => .ok (fs.set (dir ++ [String.ofList name]) (.file t)) := by
  unfold write
  by_cases h0 : p.text.contains '\x00' = true
  · simp only [h0, if_true]
    rfl
  by_cases h1 : pathTooLong p.text = true
  · simp only [h0, h1, if_true, if_false, Bool.false_eq_true]
    rfl
  simp only [h0, h1, if_false, Bool.false_eq_true]
  cases fs.walkDirs (fs.startOf p) (p.text.toList.splitOn '/').dropLast with
  | error e => rfl
  | ok dir =>
    dsimp only [bind, Except.bind]
    split_ifs <;> rfl

/-- A write that succeeds puts the text at one location, not a directory, and succeeds with any
text, at the same location, in every tree with more files written. -/
theorem write_ok {fs fs₁ : FileTree} {p : Path} {t : String} (h : fs.write p t = .ok fs₁) :
    ∃ l, fs₁ = fs.set l (.file t) ∧ l ≠ [] ∧ fs.find? l ≠ some .dir ∧
      ∀ fs', Written fs fs' → ∀ t', fs'.write p t' = .ok (fs'.set l (.file t')) := by
  rw [write_eq] at h
  split_ifs at h with h0 h1
  cases hd : fs.walkDirs (fs.startOf p) (p.text.toList.splitOn '/').dropLast with
  | error e =>
    rw [hd] at h
    cases h
  | ok dir =>
    rw [hd] at h
    dsimp only at h
    split_ifs at h with h2 h3
    have hnd : fs.find? (dir ++ [String.ofList ((p.text.toList.splitOn '/').getLastD [])]) ≠
        some .dir := by
      intro hf
      rw [hf] at h
      cases h
    have hfs₁ : fs₁ = fs.set (dir ++ [String.ofList ((p.text.toList.splitOn '/').getLastD [])])
        (.file t) := by
      split at h
      · cases h
      · exact (Except.ok.inj h).symm
    refine ⟨_, hfs₁, by simp, hnd, fun fs' hw t' => ?_⟩
    have hnd' : fs'.find? (dir ++ [String.ofList ((p.text.toList.splitOn '/').getLastD [])]) ≠
        some .dir := fun h' => hnd ((hw.dir_iff _).1 h')
    rw [write_eq, if_neg h0, if_neg h1, hw.startOf, walkDirs_written hw hd]
    dsimp only
    rw [if_neg h2, if_neg h3]
    split
    · contradiction
    · rfl


theorem write_outside {fs : FileTree} {p : Path} {keep : Location → Prop}
    (h : ∀ t, ∃ fs', fs.write p t = .ok fs' ∧ ∀ c, keep c → fs'.read c = fs.read c) :
    ∃ l, ¬ keep l ∧ l ≠ [] ∧ fs.find? l ≠ some .dir ∧
      ∀ fs', Written fs fs' → ∀ t, fs'.write p t = .ok (fs'.set l (.file t)) := by
  obtain ⟨fs₁, h₁, hk₁⟩ := h ""
  obtain ⟨l, rfl, hl, hd, hall⟩ := write_ok h₁
  refine ⟨l, fun hkl => ?_, hl, hd, hall⟩
  obtain ⟨fs₂, h₂, hk₂⟩ := h "x"
  rw [hall fs (Written.refl fs) "x", Except.ok.injEq] at h₂
  subst h₂
  have e₁ := hk₁ l hkl
  have e₂ := hk₂ l hkl
  simp only [read, find?_set _ _ hl, if_true] at e₁ e₂
  rw [← e₂] at e₁
  exact absurd (Except.ok.inj e₁) (by decide)

end FileTree
end MixedScript

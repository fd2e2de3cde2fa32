import Mathlib.Tactic.SplitIfs
import MixedScript.Directive

/-!
# Where artifacts are written

An artifact lies in its script's directory and is named after the stem alone, so two scripts
share one exactly when they share directory and stem. The proof reads the artifact's text back,
split at its last separator.
-/

namespace MixedScript.Path

theorem not_mem_of_mem_splitOn {a : Char} :
    ∀ {xs s : List Char}, s ∈ xs.splitOn a → a ∉ s
  | [], s, h => by simp_all
  | x :: xs, s, h => by
    rw [List.splitOn_cons_eq_if_modifyHead] at h
    by_cases hx : (x == a) = true
    · rw [if_pos hx] at h
      rcases List.mem_cons.1 h with rfl | h
      · simp
      · exact not_mem_of_mem_splitOn h
    · rw [if_neg hx] at h
      obtain ⟨r, rs, hr⟩ := List.exists_cons_of_ne_nil (List.splitOn_ne_nil a xs)
      rw [hr, List.modifyHead_cons] at h
      rcases List.mem_cons.1 h with rfl | h
      · have hxa : x ≠ a := by simpa using hx
        simpa [Ne.symm hxa] using not_mem_of_mem_splitOn (hr ▸ List.mem_cons_self ..)
      · exact not_mem_of_mem_splitOn (hr ▸ List.mem_cons_of_mem _ h)

theorem not_mem_of_mem_split {p : Path} {s : List Char} (h : s ∈ p.split.2) : '/' ∉ s :=
  not_mem_of_mem_splitOn h

theorem mem_of_popComponent {segs before : List (List Char)} {c : Component}
    (h : popComponent segs = some (c, before)) :
    (∃ s ∈ segs, segmentComponent s = some c) ∧ ∀ b ∈ before, b ∈ segs := by
  unfold popComponent at h
  split at h
  · simp at h
  · rename_i s rest hs
    obtain ⟨c', hc', hcb⟩ := Option.map_eq_some_iff.1 h
    simp only [Prod.mk.injEq] at hcb
    obtain ⟨rfl, rfl⟩ := hcb
    have hsub : ∀ x ∈ s :: rest, x ∈ segs := fun x hx =>
      List.mem_reverse.1 ((List.dropWhile_suffix _).subset (hs ▸ hx))
    exact ⟨⟨s, hsub s (by simp), hc'⟩, fun b hb => hsub b (by simp [List.mem_reverse.1 hb])⟩

theorem eq_of_segmentComponent_normal {s n : List Char}
    (h : segmentComponent s = some (.normal n)) : n = s := by
  unfold segmentComponent at h
  split_ifs at h
  · cases h
  · cases h
    rfl

theorem fileName?_isSome {p : Path} (h : p.fileName?.isSome) :
    ∃ n before, popComponent p.split.2 = some (.normal n, before) ∧
      p.fileName? = some (String.ofList n) := by
  unfold fileName? at h ⊢
  split at h
  · rename_i n before hpop
    exact ⟨n, before, hpop, rfl⟩
  · simp at h

theorem parent?_of_popComponent {p : Path} {c : Component} {before : List (List Char)}
    (h : popComponent p.split.2 = some (c, before)) :
    p.parent? = some ⟨String.ofList (p.split.1 ++ joinSegments (trimTrailing before))⟩ := by
  unfold parent?
  generalize p.split = ps at h ⊢
  obtain ⟨pre, segs⟩ := ps
  dsimp only at h ⊢
  rw [h]

theorem split_fst (p : Path) : p.split.1 = [] ∨ p.split.1 = ['/'] ∨ p.split.1 = ['.'] := by
  unfold split
  dsimp only
  cases hc : p.text.toList with
  | nil => simp
  | cons x rest =>
    by_cases hr : rootedChars (x :: rest) = true
    · obtain rfl : x = '/' := by simpa [rootedChars] using hr
      simp [hr]
    · by_cases hd : curDirChars (x :: rest) = true
      · obtain rfl : x = '.' := by
          simp only [curDirChars, hr, Bool.not_false, Bool.true_and, Bool.or_eq_true,
            beq_iff_eq] at hd
          rcases hd with hd | hd
          · simp_all
          · cases rest <;> simp_all
        simp [hd]
      · simp [hr, hd]

theorem joinSegments_append_singleton (segs : List (List Char)) (s : List Char) :
    ∃ pre, joinSegments (segs ++ [s]) = pre ++ s := by
  induction segs with
  | nil => exact ⟨[], by simp [joinSegments]⟩
  | cons a segs ih =>
    obtain ⟨pre, hpre⟩ := ih
    refine ⟨a ++ ['/'] ++ pre, ?_⟩
    change ['/'].intercalate (a :: (segs ++ [s])) = _
    rw [List.intercalate_cons_of_ne_nil (by simp)]
    change a ++ ['/'] ++ joinSegments (segs ++ [s]) = _
    simp [hpre]

theorem trimTrailing_cases (segs : List (List Char)) :
    trimTrailing segs = [] ∨
      ∃ init s, trimTrailing segs = init ++ [s] ∧ isFiller s = false ∧ s ∈ segs := by
  unfold trimTrailing
  have hnot := List.head?_dropWhile_not isFiller segs.reverse
  have hsub : ∀ x ∈ segs.reverse.dropWhile isFiller, x ∈ segs := fun x hx =>
    List.mem_reverse.1 ((List.dropWhile_suffix _).subset hx)
  cases hd : segs.reverse.dropWhile isFiller with
  | nil => exact .inl rfl
  | cons s rest =>
    rw [hd] at hnot hsub
    exact .inr ⟨rest.reverse, s, by simp, hnot, hsub s (by simp)⟩

/-- The text of a directory that `parent?` gives is empty, the root, or ends in a character that
is no separator. -/
def EndsClear (d : List Char) : Prop :=
  d = [] ∨ d = ['/'] ∨ ∃ c, d.getLast? = some c ∧ c ≠ '/'

theorem endsClear_parent {p : Path} {c : Component} {before : List (List Char)}
    (h : popComponent p.split.2 = some (c, before)) :
    EndsClear (p.split.1 ++ joinSegments (trimTrailing before)) := by
  rcases trimTrailing_cases before with hnil | ⟨init, s, hs, hfill, hmem⟩
  · rw [hnil]
    rcases split_fst p with h₀ | h₀ | h₀ <;> simp [EndsClear, joinSegments, h₀]
  · obtain ⟨pre, hpre⟩ := joinSegments_append_singleton init s
    have hne : s ≠ [] := by
      rintro rfl
      simp [isFiller, segmentComponent] at hfill
    obtain ⟨x, hx⟩ := List.getLast?_isSome.2 hne |> Option.isSome_iff_exists.1
    have hslash : '/' ∉ s := not_mem_of_mem_split ((mem_of_popComponent h).2 s hmem)
    refine .inr (.inr ⟨x, ?_, fun hxs => hslash (hxs ▸ List.mem_of_getLast? hx)⟩)
    rw [hs, hpre, ← List.append_assoc, List.getLast?_append, hx]
    rfl

/-- How a path joined to a directory starts: the directory's text, with a separator at its end
unless it is empty or already ends in one. -/
def withSeparator (d : List Char) : List Char :=
  if d = [] ∨ d.getLast? = some '/' then d else d ++ ['/']

theorem join_text {d : Path} {name : String} (h : name.toList.head? ≠ some '/') :
    (d.join ⟨name⟩).text.toList = withSeparator d.text.toList ++ name.toList := by
  have habs : isAbsolute ⟨name⟩ = false := by simpa [isAbsolute, rootedChars] using h
  have hcond : (d.text.isEmpty || d.text.toList.getLast? == some '/') = true ↔
      (d.text.toList = [] ∨ d.text.toList.getLast? = some '/') := by
    simp [String.isEmpty_iff, String.toList_eq_nil_iff]
  unfold join withSeparator
  rw [habs]
  by_cases hd : d.text.toList = [] ∨ d.text.toList.getLast? = some '/'
  · rw [if_neg Bool.false_ne_true, if_pos (hcond.2 hd), if_pos hd, String.toList_append]
  · rw [if_neg Bool.false_ne_true, if_neg (mt hcond.1 hd), if_neg hd]
    simp

theorem eq_of_withSeparator {d : List Char} (h : EndsClear d) :
    d = if withSeparator d = ['/'] then ['/'] else (withSeparator d).dropLast := by
  rcases h with rfl | rfl | ⟨c, hc, hne⟩
  · simp [withSeparator]
  · simp [withSeparator]
  · have hd : ¬(d = [] ∨ d.getLast? = some '/') := by
      rintro (rfl | hs)
      · simp at hc
      · exact hne (Option.some_inj.1 (hc.symm.trans hs))
    have hroot : d ++ ['/'] ≠ ['/'] := by
      intro hr
      rw [List.append_eq_singleton_iff] at hr
      rcases hr with ⟨rfl, -⟩ | ⟨-, hr⟩
      · simp at hc
      · simp at hr
    rw [withSeparator, if_neg hd, if_neg hroot, List.dropLast_concat]

theorem withSeparator_inj {d₁ d₂ : List Char} (h₁ : EndsClear d₁) (h₂ : EndsClear d₂)
    (h : withSeparator d₁ = withSeparator d₂) : d₁ = d₂ := by
  rw [eq_of_withSeparator h₁, eq_of_withSeparator h₂, h]

theorem eq_of_append_eq_of_last_sep {x₁ x₂ n₁ n₂ : List Char} (h : x₁ ++ n₁ = x₂ ++ n₂)
    (hx₁ : x₁ = [] ∨ x₁.getLast? = some '/') (hx₂ : x₂ = [] ∨ x₂.getLast? = some '/')
    (hn₁ : '/' ∉ n₁) (hn₂ : '/' ∉ n₂) : x₁ = x₂ ∧ n₁ = n₂ := by
  -- Where one prefix is longer, it ends in a separator that then lies in the other name.
  rcases List.append_eq_append_iff.1 h with ⟨a, rfl, rfl⟩ | ⟨b, rfl, rfl⟩
  · rcases List.eq_nil_or_concat a with rfl | ⟨a', c, rfl⟩
    · simp
    · have hc : c = '/' := by simpa using hx₂
      exact absurd (by simp [hc]) hn₁
  · rcases List.eq_nil_or_concat b with rfl | ⟨b', c, rfl⟩
    · simp
    · have hc : c = '/' := by simpa using hx₁
      exact absurd (by simp [hc]) hn₂

theorem withSeparator_last (d : List Char) :
    withSeparator d = [] ∨ (withSeparator d).getLast? = some '/' := by
  unfold withSeparator
  split_ifs with h
  · exact h
  · simp

theorem mem_of_mem_stemOf {cs : List Char} {c : Char} (h : c ∈ stemOf cs) : c ∈ cs := by
  unfold stemOf at h
  dsimp only at h
  split_ifs at h
  · exact h
  · exact List.mem_reverse.1 ((List.dropWhile_suffix _).subset (List.mem_of_mem_drop
      (List.mem_reverse.1 h)))
  · exact h

end MixedScript.Path

namespace MixedScript

open MixedScript.Path

theorem artifactPath_text {p : Path} (hp : p.fileName?.isSome) :
    ∃ d s, p.parent? = some ⟨String.ofList d⟩ ∧ p.fileStem? = some s ∧ EndsClear d ∧
      '/' ∉ s.toList ∧
      (artifactPath p).text.toList = withSeparator d ++ '.' :: (s.toList ++ ['.', 'p', 'y']) := by
  obtain ⟨n, before, hpop, hname⟩ := fileName?_isSome hp
  obtain ⟨⟨seg, hseg, hcomp⟩, -⟩ := mem_of_popComponent hpop
  have hn : '/' ∉ n := eq_of_segmentComponent_normal hcomp ▸ not_mem_of_mem_split hseg
  let stem : String :=
    if String.ofList n == ".." then String.ofList n else String.ofList (stemOf n)
  have hstem : p.fileStem? = some stem := by
    simp [fileStem?, hname, stem]
  have hslash : '/' ∉ stem.toList := by
    simp only [stem]
    split_ifs
    · simpa using hn
    · simpa using fun h => hn (mem_of_mem_stemOf h)
  refine ⟨_, stem, parent?_of_popComponent hpop, hstem, endsClear_parent hpop, hslash, ?_⟩
  have hhead : ("." ++ stem ++ ".py").toList.head? ≠ some '/' := by simp
  simp only [artifactPath, withFileName, hname, parent?_of_popComponent hpop, hstem,
    Option.getD_some]
  rw [join_text hhead]
  simp

/-- Two scripts with file names share an artifact exactly when they lie in the same directory
and have the same stem. -/
theorem artifactPath_eq_iff {p q : Path} (hp : p.fileName?.isSome) (hq : q.fileName?.isSome) :
    artifactPath p = artifactPath q ↔ p.parent? = q.parent? ∧ p.fileStem? = q.fileStem? := by
  obtain ⟨d₁, s₁, hd₁, hs₁, hc₁, hn₁, ht₁⟩ := artifactPath_text hp
  obtain ⟨d₂, s₂, hd₂, hs₂, hc₂, hn₂, ht₂⟩ := artifactPath_text hq
  rw [hd₁, hd₂, hs₁, hs₂]
  constructor
  · intro h
    -- The last separator splits both texts into the directory and the hidden name.
    have htext := congrArg (fun a : Path => a.text.toList) h
    simp only [ht₁, ht₂] at htext
    obtain ⟨hdir, hname⟩ := eq_of_append_eq_of_last_sep htext (withSeparator_last d₁)
      (withSeparator_last d₂) (by simpa using hn₁) (by simpa using hn₂)
    have hs : s₁ = s₂ := String.toList_inj.1 (by simpa using hname)
    rw [withSeparator_inj hc₁ hc₂ hdir, hs]
    simp
  · rintro ⟨hdir, hstem⟩
    have hd : d₁ = d₂ := by
      have h : String.ofList d₁ = String.ofList d₂ := by simpa using hdir
      simpa using congrArg String.toList h
    have hs : s₁ = s₂ := by simpa using hstem
    have htext : (artifactPath p).text = (artifactPath q).text :=
      String.toList_inj.1 (by rw [ht₁, ht₂, hd, hs])
    show Path.mk (artifactPath p).text = Path.mk (artifactPath q).text
    rw [htext]

example : artifactPath ⟨"lib/a.script"⟩ = artifactPath ⟨"lib/a.sh"⟩ :=
  (artifactPath_eq_iff (by decide) (by decide)).2 ⟨by decide, by decide⟩

end MixedScript

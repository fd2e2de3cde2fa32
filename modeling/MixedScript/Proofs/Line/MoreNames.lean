import Mathlib.Data.List.Forall2
import MixedScript.Proofs.Line.Classify

/-!
# Knowing more names

Host code in a scope stays host code in every scope that knows more, but along a script two runs
can drift apart through assignments. When no assignment starts with a name only the larger
starting scope knows, the larger run keeps every host or blended class of the other.
-/

namespace MixedScript

namespace NameSet

/-- Every name of one set is in the other. -/
def Subset (s t : NameSet) : Prop :=
  ∀ n, s.contains n = true → t.contains n = true

theorem Subset.refl (s : NameSet) : s.Subset s :=
  fun _ h => h

theorem Subset.insert {s t : NameSet} (h : s.Subset t) (x : String) :
    (s.insert x).Subset (t.insert x) := by
  intro n hn
  rw [contains_insert, Bool.or_eq_true] at hn ⊢
  exact hn.imp_left (h n)

theorem subset_insert (s : NameSet) (x : String) : s.Subset (s.insert x) := by
  intro n hn
  rw [contains_insert, hn, Bool.true_or]

end NameSet

namespace Scope

/-- One scope knows every name the other knows, in the same role. -/
structure Le (s t : Scope) : Prop where
  imports : s.imports.Subset t.imports
  functions : s.functions.Subset t.functions
  «variables» : s.variables.Subset t.variables

/-- Whether a scope knows a name in any role: the test the classifier makes of a statement's
first part. -/
def knows (sc : Scope) (n : String) : Bool :=
  sc.variables.contains n || sc.imports.contains n || sc.functions.contains n

theorem Le.refl (s : Scope) : s.Le s :=
  ⟨.refl _, .refl _, .refl _⟩

theorem Le.assign {s t : Scope} (h : s.Le t) (x : String) : (s.assign x).Le (t.assign x) :=
  ⟨h.imports, h.functions, h.variables.insert x⟩

theorem Le.knows {s t : Scope} (h : s.Le t) {n : String} (hn : s.knows n = true) :
    t.knows n = true := by
  simp only [Scope.knows, Bool.or_eq_true] at hn ⊢
  rcases hn with (hv | hi) | hf
  · exact .inl (.inl (h.variables n hv))
  · exact .inl (.inr (h.imports n hi))
  · exact .inr (h.functions n hf)

theorem knows_assign (s : Scope) (x n : String) :
    (s.assign x).knows n = (s.knows n || n == x) := by
  simp only [knows, assign, NameSet.contains_insert, Bool.or_comm, Bool.or_left_comm]

end Scope

namespace Line

open MixedScript.Text MixedScript.Layout MixedScript.Scope

/-- The class of host code on a statement: blended when a substitution stands on it. -/
def codeClass (spans : List Span) : LineClass :=
  if spans.isEmpty then .host else .blended

/-- The class of a statement that is not host code: a directive or a shell command. -/
def otherClass (line : String) : LineClass :=
  if isDirective (trimStart line.toList) then .directive else .shell

/-- The names a statement binds when the classifier reads it as an assignment: the identifiers
left of its first `=`, when something stands right of it. -/
def assignedNames (line : String) (spans : List Span) : Option (List (List Char)) :=
  let masked := maskSpans line.toList spans
  if masked.contains '=' then
    match assignmentTargets (masked.takeWhile (· != '=')) with
    | some names =>
      if (trim ((masked.dropWhile (· != '=')).drop 1)).isEmpty then none else some names
    | none => none
  else none

theorem classifyLine_eq (line : String) (spans : List Span) (sc : Scope) :
    classifyLine line spans sc =
      if isCommentLine (trimStart line.toList) then (.comment, sc)
      else if startsWithHostName (splitParts (trimStart line.toList)) sc then (codeClass spans, sc)
      else match assignedNames line spans with
        | some names => (codeClass spans, names.foldl (fun s n => s.assign (String.ofList n)) sc)
        | none => (otherClass line, sc) := by
  unfold classifyLine codeClass otherClass assignedNames
  dsimp only
  generalize assignmentTargets ((maskSpans line.toList spans).takeWhile (· != '=')) = t
  cases t <;> dsimp only <;> split_ifs <;> rfl

theorem otherClass_not_code (line : String) :
    ¬ (otherClass line = .host ∨ otherClass line = .blended) := by
  unfold otherClass
  split <;> simp

theorem startsWithHostName_first {first : List Char} (more : List (List Char)) (sc : Scope)
    (hd : ∀ rest, first ≠ '@' :: rest) :
    startsWithHostName (first :: more) sc =
      (hostKeywords.contains (String.ofList first) || sc.knows (String.ofList first) ||
        (hostBuiltins.contains (String.ofList first) &&
          more.head?.any fun p => p.head? == some '(')) := by
  unfold startsWithHostName
  split
  · contradiction
  · rename_i rest _ heq
    cases heq
    exact absurd rfl (hd rest)
  · rename_i heq
    injection heq with hfirst hmore
    subst hfirst hmore
    simp only [knows, Bool.or_assoc]

theorem startsWithHostName_decorator (rest : List Char) (more : List (List Char))
    (sc sc' : Scope) :
    startsWithHostName (('@' :: rest) :: more) sc = startsWithHostName (('@' :: rest) :: more) sc' :=
  rfl

theorem startsWithHostName_of_le (parts : List (List Char)) {sc sc' : Scope} (h : sc.Le sc') :
    (startsWithHostName parts sc = true → startsWithHostName parts sc' = true) ∧
    (startsWithHostName parts sc' = true → startsWithHostName parts sc = false →
      ∃ n, parts.head?.map String.ofList = some n ∧ sc'.knows n = true ∧ sc.knows n = false) := by
  rcases parts with _ | ⟨first, more⟩
  · exact ⟨fun h => h, fun h => by simp [startsWithHostName] at h⟩
  by_cases hdec : ∃ rest, first = '@' :: rest
  · -- A decorator is host code whatever the scope.
    obtain ⟨rest, rfl⟩ := hdec
    rw [startsWithHostName_decorator rest more sc sc']
    exact ⟨fun h => h, fun h h' => by simp [h] at h'⟩
  have hd : ∀ rest, first ≠ '@' :: rest := fun rest h => hdec ⟨rest, h⟩
  rw [startsWithHostName_first more sc hd, startsWithHostName_first more sc' hd]
  refine ⟨fun hs => ?_, fun hs' hs => ⟨String.ofList first, rfl, ?_⟩⟩
  · simp only [Bool.or_eq_true] at hs ⊢
    exact hs.imp_left (Or.imp_right h.knows)
  · simp only [Bool.or_eq_true, Bool.or_eq_false_iff] at hs' hs
    refine ⟨?_, hs.1.2⟩
    rcases hs' with (hk | hk) | hb
    · rw [hs.1.1] at hk
      cases hk
    · exact hk
    · rw [hs.2] at hb
      cases hb

theorem classifyLine_class_of_le {l : String} {sp : List Span} {sc sc' : Scope} (h : sc.Le sc')
    (hc : (classifyLine l sp sc).1 = .host ∨ (classifyLine l sp sc).1 = .blended) :
    (classifyLine l sp sc').1 = (classifyLine l sp sc).1 := by
  have hmono := (startsWithHostName_of_le (splitParts (trimStart l.toList)) h).1
  rw [classifyLine_eq] at hc ⊢
  rw [classifyLine_eq]
  by_cases hcom : isCommentLine (trimStart l.toList) = true
  · simp [hcom] at hc
  by_cases hs : startsWithHostName (splitParts (trimStart l.toList)) sc = true
  · simp [hcom, hs, hmono hs]
  -- In the smaller scope the statement is host code only as an assignment, and the larger
  -- scope reads it as host code either way.
  cases ha : assignedNames l sp with
  | none => simp [hcom, hs, ha, otherClass_not_code] at hc
  | some names =>
    by_cases hs' : startsWithHostName (splitParts (trimStart l.toList)) sc' = true <;>
      simp [hcom, hs, hs']

/-- What the run from the larger scope knows beyond the other run: only names of its start
that the smaller start does not know. -/
structure Widens (ctx ctx' sc sc' : Scope) : Prop where
  le : sc.Le sc'
  extra : ∀ n, sc'.knows n = true → sc.knows n = true ∨ (ctx'.knows n = true ∧ ctx.knows n = false)

variable {ctx ctx' : Scope}

theorem Widens.init (h : ctx.Le ctx') : Widens ctx ctx' ctx ctx' := by
  refine ⟨h, fun n hn => ?_⟩
  cases hc : ctx.knows n
  · exact .inr ⟨hn, rfl⟩
  · exact .inl rfl

theorem Widens.assign {sc sc' : Scope} (hw : Widens ctx ctx' sc sc') (x : String) :
    Widens ctx ctx' (sc.assign x) (sc'.assign x) := by
  refine ⟨hw.le.assign x, fun n hn => ?_⟩
  rw [knows_assign, Bool.or_eq_true] at hn
  rw [knows_assign, Bool.or_eq_true]
  rcases hn with hn | hx
  · exact (hw.extra n hn).imp_left .inl
  · exact .inl (.inr hx)

theorem Widens.foldl_assign {sc sc' : Scope} (hw : Widens ctx ctx' sc sc')
    (names : List (List Char)) :
    Widens ctx ctx' (names.foldl (fun s n => s.assign (String.ofList n)) sc)
      (names.foldl (fun s n => s.assign (String.ofList n)) sc') := by
  induction names generalizing sc sc' with
  | nil => exact hw
  | cons n names ih => exact ih (hw.assign (String.ofList n))

theorem classifyLine_widens {l : String} {sp : List Span} {sc sc' : Scope}
    (hw : Widens ctx ctx' sc sc')
    (hfresh : ∀ n, leadName l = some n → ctx'.knows n = true → ctx.knows n = false →
      assignedNames l sp = none) :
    Widens ctx ctx' (classifyLine l sp sc).2 (classifyLine l sp sc').2 := by
  have hle := startsWithHostName_of_le (splitParts (trimStart l.toList)) hw.le
  rw [classifyLine_eq, classifyLine_eq]
  by_cases hcom : isCommentLine (trimStart l.toList) = true
  · simpa [hcom] using hw
  by_cases hs : startsWithHostName (splitParts (trimStart l.toList)) sc = true
  · simpa [hcom, hs, hle.1 hs] using hw
  by_cases hs' : startsWithHostName (splitParts (trimStart l.toList)) sc' = true
  · -- Only the larger run reads the statement as host code: its first part is a name that only
    -- the larger start knows, so the statement assigns nothing.
    obtain ⟨n, hn, hk', hk⟩ := hle.2 hs' (by simpa using hs)
    have hextra := (hw.extra n hk').resolve_left (by simp [hk])
    simpa [hcom, hs, hs', hfresh n hn hextra.1 hextra.2] using hw
  · simp only [hcom, hs, hs', Bool.false_eq_true, if_false]
    split
    · exact hw.foldl_assign _
    · exact hw

theorem classifyFrom_widens {S : List Span} :
    ∀ (L : List String) (i : Nat) {sc sc' : Scope}, Widens ctx ctx' sc sc' →
      (∀ k l n, L[k]? = some l → leadName l = some n → ctx'.knows n = true →
        ctx.knows n = false → assignedNames l (spansOn S (i + k)) = none) →
      List.Forall₂ (fun p p' => (p.1 = .host ∨ p.1 = .blended → p'.1 = p.1) ∧
        Widens ctx ctx' p.2 p'.2) (classifyFrom S i L sc) (classifyFrom S i L sc')
  | [], _, _, _, _, _ => .nil
  | l :: L, i, sc, sc', hw, hfresh => by
    have hstep : Widens ctx ctx' (classifyLine l (spansOn S i) sc).2
        (classifyLine l (spansOn S i) sc').2 :=
      classifyLine_widens hw fun n hn h₁ h₂ => by simpa using hfresh 0 l n rfl hn h₁ h₂
    refine .cons ⟨fun hc => classifyLine_class_of_le hw.le hc, hstep⟩ ?_
    refine classifyFrom_widens L (i + 1) hstep fun k l' n hk hn h₁ h₂ => ?_
    have := hfresh (k + 1) l' n (by simpa using hk) hn h₁ h₂
    rwa [show i + (k + 1) = i + 1 + k by omega] at this

theorem forall₂_getElem? {α β : Type} {R : α → β → Prop} :
    ∀ {l : List α} {l' : List β}, List.Forall₂ R l l' → ∀ {k : Nat} {a : α}, l[k]? = some a →
      ∃ b, l'[k]? = some b ∧ R a b
  | _, _, .nil, _, _, h => by simp at h
  | _, _, .cons hab _, 0, _, h => by
    cases h
    exact ⟨_, rfl, hab⟩
  | _, _, .cons _ hl, k + 1, _, h => forall₂_getElem? hl h

theorem forall₂_getLast? {α β : Type} {R : α → β → Prop} {P : α → β → Prop} (a₀ : α) (b₀ : β)
    (h₀ : P a₀ b₀) (hR : ∀ a b, R a b → P a b) :
    ∀ {l : List α} {l' : List β}, List.Forall₂ R l l' → P (l.getLast?.getD a₀) (l'.getLast?.getD b₀)
  | _, _, .nil => h₀
  | _, _, .cons hab .nil => hR _ _ hab
  | _, _, .cons _ (.cons hab' hl) => by
    simpa only [List.getLast?_cons_cons] using forall₂_getLast? a₀ b₀ h₀ hR (.cons hab' hl)

/-- Knowing more names from the start never turns host code into shell, when no assignment
starts with a name that only the larger start knows: every host or blended statement keeps its
class, and the run ends knowing every variable the other run ends with. -/
theorem classifyAll_knowing_more (L : List String) (S : List Span) {ctx ctx' : Scope}
    (hle : ctx.Le ctx')
    (hfresh : ∀ k l n, L[k]? = some l → leadName l = some n → ctx'.knows n = true →
      ctx.knows n = false → assignedNames l (spansOn S k) = none) :
    (∀ (k : Nat) (c : LineClass), (classifyAll L S ctx).1[k]? = some c →
      c = .host ∨ c = .blended → (classifyAll L S ctx').1[k]? = some c) ∧
    (classifyAll L S ctx).2.variables.Subset (classifyAll L S ctx').2.variables := by
  have hrun := classifyFrom_widens (S := S) L 0 (Widens.init hle) (by simpa using hfresh)
  refine ⟨fun k c hk hc => ?_, ?_⟩
  · rw [classifyAll, List.getElem?_map] at hk
    obtain ⟨p, hp, rfl⟩ := Option.map_eq_some_iff.1 hk
    obtain ⟨p', hp', hcls, -⟩ := forall₂_getElem? hrun hp
    simp [classifyAll, hp', hcls hc]
  · -- The last scopes of the two runs, or the starts when the script is empty.
    have hlast := forall₂_getLast? (P := fun p p' => p.2.variables.Subset p'.2.variables)
      (LineClass.host, ctx) (LineClass.host, ctx') hle.variables (fun _ _ h => h.2.le.variables) hrun
    have hscope : ∀ (o : Option (LineClass × Scope)) (s : Scope),
        (o.map (·.2)).getD s = (o.getD (.host, s)).2 := fun o s => by cases o <;> rfl
    simpa only [classifyAll, hscope] using hlast

theorem classifyAll_knowing_more_assigned :
    Scope.initial.Le (Scope.initial.assign "b") ∧
    (∀ k l n, ["a , b = 1, 2", "b.append(3)"][k]? = some l → leadName l = some n →
      (Scope.initial.assign "b").knows n = true → Scope.initial.knows n = false →
      assignedNames l (spansOn [] k) = none) ∧
    (∀ (k : Nat) (c : LineClass),
      (classifyAll ["a , b = 1, 2", "b.append(3)"] [] Scope.initial).1[k]? = some c →
      c = .host ∨ c = .blended →
      (classifyAll ["a , b = 1, 2", "b.append(3)"] [] (Scope.initial.assign "b")).1[k]? =
        some c) ∧
    (classifyAll ["a , b = 1, 2", "b.append(3)"] [] Scope.initial).2.variables.Subset
      (classifyAll ["a , b = 1, 2", "b.append(3)"] [] (Scope.initial.assign "b")).2.variables ∧
    leadName "a , b = 1, 2" = some "a" ∧
    assignedNames "a , b = 1, 2" [] = some ["a".toList, "b".toList] ∧
    (classifyAll ["a , b = 1, 2", "b.append(3)"] [] Scope.initial).1 = [.host, .host] ∧
    (classifyAll ["a , b = 1, 2", "b.append(3)"] [] (Scope.initial.assign "a")).1 =
      [.host, .shell] := by
  have hle : Scope.initial.Le (Scope.initial.assign "b") :=
    ⟨.refl _, .refl _, NameSet.subset_insert _ "b"⟩
  have hfresh : ∀ k l n, ["a , b = 1, 2", "b.append(3)"][k]? = some l → leadName l = some n →
      (Scope.initial.assign "b").knows n = true → Scope.initial.knows n = false →
      assignedNames l (spansOn [] k) = none := by
    intro k l n hk hn hknown _
    match k, hk with
    | 0, hk =>
      -- The assignment starts with `a`, which the larger start does not know.
      cases hk
      have ha : leadName "a , b = 1, 2" = some "a" := by decide +kernel
      rw [ha, Option.some.injEq] at hn
      subst hn
      exact absurd hknown (by decide +kernel)
    | 1, hk =>
      cases hk
      decide +kernel
  have hmore := classifyAll_knowing_more ["a , b = 1, 2", "b.append(3)"] [] hle hfresh
  exact ⟨hle, hfresh, hmore.1, hmore.2, by decide +kernel, by decide +kernel, by decide +kernel,
    by decide +kernel⟩

end Line

end MixedScript

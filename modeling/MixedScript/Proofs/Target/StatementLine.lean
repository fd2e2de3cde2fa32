import Mathlib.Data.List.TakeWhile
import Mathlib.Tactic.SplitIfs
import MixedScript.Proofs.Target.Splice

/-!
# What one statement becomes

Every class turns a statement into one line without a newline that keeps its leading blanks. A
comment, a directive that already calls `source(` and a host statement with nothing to rewrite
are emitted as written.
-/

namespace MixedScript

open MixedScript.Text MixedScript.Layout

namespace Text

theorem takeWhile_isBlank_append_cons {c : Char} (hc : isBlank c = false) (xs ys : List Char) :
    (xs ++ c :: ys).takeWhile isBlank = xs.takeWhile isBlank := by
  induction xs with
  | nil => simp [hc]
  | cons x xs ih => cases hx : isBlank x <;> simp [hx, ih]

theorem takeWhile_takeWhile_isBlank (cs : List Char) :
    (cs.takeWhile isBlank).takeWhile isBlank = cs.takeWhile isBlank := by
  simp [List.takeWhile_takeWhile]

theorem take_sub_trimStart (cs : List Char) :
    cs.take (cs.length - (trimStart cs).length) = cs.takeWhile isBlank := by
  induction cs with
  | nil => rfl
  | cons c cs ih =>
    cases hc : isBlank c
    · simp [trimStart, hc]
    · -- A leading blank is one more character that `trimStart` drops and the indent keeps.
      have hle : (trimStart cs).length ≤ cs.length := List.length_dropWhile_le _ _
      have htrim : trimStart (c :: cs) = trimStart cs := by simp [trimStart, hc]
      rw [htrim, List.length_cons, show cs.length + 1 - (trimStart cs).length =
        cs.length - (trimStart cs).length + 1 by omega, List.take_succ_cons, ih]
      simp [hc]

theorem infix_of_byteSlice {cs s : List Char} {lo hi : Nat} (h : byteSlice cs lo hi = some s) :
    s <:+: cs := by
  simp only [byteSlice, Option.bind_eq_bind, Option.bind_eq_some_iff] at h
  obtain ⟨i, -, j, -, h⟩ := h
  split at h
  · cases h
    exact (List.take_prefix _ _).isInfix.trans (List.drop_suffix _ _).isInfix
  · cases h

theorem base64Digit_mem (n : Nat) : base64Digit n ∈ base64Alphabet := by
  have hlen : base64Alphabet.length = 64 := by decide
  rw [base64Digit, List.getD_eq_getElem?_getD,
    List.getElem?_eq_getElem (show n % 64 < base64Alphabet.length by omega), Option.getD_some]
  exact List.getElem_mem _

theorem mem_base64Bytes {c : Char} {bs : List UInt8} (h : c ∈ base64Bytes bs) :
    c ∈ base64Alphabet ∨ c = '=' := by
  induction bs using base64Bytes.induct with
  | case1 a b d rest ih =>
    simp only [base64Bytes, List.cons_append, List.nil_append, List.mem_cons] at h
    rcases h with rfl | rfl | rfl | rfl | h <;>
      first | exact .inl (base64Digit_mem _) | exact ih h
  | case2 a b =>
    simp only [base64Bytes, List.mem_cons, List.not_mem_nil, or_false] at h
    rcases h with rfl | rfl | rfl | rfl <;> first | exact .inl (base64Digit_mem _) | exact .inr rfl
  | case3 a =>
    simp only [base64Bytes, List.mem_cons, List.not_mem_nil, or_false] at h
    rcases h with rfl | rfl | rfl | rfl <;> first | exact .inl (base64Digit_mem _) | exact .inr rfl
  | case4 => simp [base64Bytes] at h

theorem newline_not_mem_base64 (s : String) : '\n' ∉ (base64 s).toList := by
  intro h
  rw [base64, String.toList_ofList] at h
  rcases mem_base64Bytes h with h | h <;> exact absurd h (by decide)

end Text

namespace Target

theorem rewriteStatusRefs_of_not_infix {cs : List Char} (h : ¬ ['$', '?'] <:+: cs) :
    rewriteStatusRefs cs = cs := by
  induction cs using rewriteStatusRefs.induct with
  | case1 rest ih => exact absurd (List.prefix_append _ rest).isInfix h
  | case2 c rest hne ih =>
    rw [rewriteStatusRefs.eq_2 c rest hne,
      ih fun hi => h (hi.trans (List.suffix_cons c rest).isInfix)]
  | case3 => rfl

theorem rewriteArgRefs_of_plain {cs : List Char}
    (h : ∀ d, isDecimalDigit d = true → ¬ ['$', d] <:+: cs) : rewriteArgRefs cs = cs := by
  induction cs using rewriteArgRefs.induct with
  | case1 c rest hc digits ih => exact absurd (List.prefix_append ['$', c] rest).isInfix (h c hc)
  | case2 c rest hc ih =>
    rw [rewriteArgRefs, if_neg (by simpa using hc), ih fun d hd hi =>
      h d hd (hi.trans (List.suffix_cons '$' _).isInfix)]
  | case3 c rest hne ih =>
    rw [rewriteArgRefs.eq_2 c rest hne,
      ih fun d hd hi => h d hd (hi.trans (List.suffix_cons c rest).isInfix)]
  | case4 => rw [rewriteArgRefs]

theorem takeWhile_isBlank_rewriteStatusRefs (cs : List Char) :
    (rewriteStatusRefs cs).takeWhile isBlank = cs.takeWhile isBlank := by
  induction cs using rewriteStatusRefs.induct with
  | case1 rest ih =>
    simp [rewriteStatusRefs, rcName, show isBlank 'R' = false by decide,
      show isBlank '$' = false by decide]
  | case2 c rest hne ih =>
    rw [rewriteStatusRefs.eq_2 c rest hne]
    cases hc : isBlank c <;> simp [hc, ih]
  | case3 => rfl

theorem takeWhile_isBlank_rewriteArgRefs (cs : List Char) :
    (rewriteArgRefs cs).takeWhile isBlank = cs.takeWhile isBlank := by
  induction cs using rewriteArgRefs.induct with
  | case1 c rest hc digits ih =>
    rw [rewriteArgRefs, if_pos hc]
    simp [show isBlank 's' = false by decide, show isBlank '$' = false by decide]
  | case2 c rest hc ih =>
    rw [rewriteArgRefs, if_neg (by simpa using hc)]
    simp [show isBlank '$' = false by decide]
  | case3 c rest hne ih =>
    rw [rewriteArgRefs.eq_2 c rest hne]
    cases hc : isBlank c <;> simp [hc, ih]
  | case4 => rw [rewriteArgRefs]

theorem mem_rewriteStatusRefs {c : Char} {cs : List Char} (h : c ∈ rewriteStatusRefs cs) :
    c ∈ cs ∨ c ∈ rcName.toList := by
  induction cs using rewriteStatusRefs.induct with
  | case1 rest ih =>
    rw [rewriteStatusRefs, List.mem_append] at h
    rcases h with h | h
    · exact .inr h
    · exact (ih h).imp_left fun h => by simp [h]
  | case2 d rest hne ih =>
    rw [rewriteStatusRefs.eq_2 d rest hne, List.mem_cons] at h
    rcases h with rfl | h
    · exact .inl List.mem_cons_self
    · exact (ih h).imp_left (List.mem_cons_of_mem d)
  | case3 => simp [rewriteStatusRefs] at h

theorem mem_rewriteArgRefs {c : Char} {cs : List Char} (h : c ∈ rewriteArgRefs cs) :
    c ∈ cs ∨ c ∈ "sys.argv[]".toList := by
  induction cs using rewriteArgRefs.induct with
  | case1 d rest hd digits ih =>
    rw [rewriteArgRefs, if_pos hd] at h
    simp only [List.mem_append, List.mem_cons] at h
    rcases h with (h | rfl | h) | rfl | h
    · exact .inr (List.subset_def.1 (by decide : "sys.argv[".toList ⊆ "sys.argv[]".toList) h)
    · simp
    · simp [(List.takeWhile_prefix _).subset h]
    · exact .inr (by decide)
    · exact (ih h).imp_left fun h => by simp [List.mem_of_mem_drop h]
  | case2 d rest hd ih =>
    rw [rewriteArgRefs, if_neg (by simpa using hd), List.mem_cons] at h
    rcases h with rfl | h
    · exact .inl List.mem_cons_self
    · exact (ih h).imp_left (List.mem_cons_of_mem _)
  | case3 d rest hne ih =>
    rw [rewriteArgRefs.eq_2 d rest hne, List.mem_cons] at h
    rcases h with rfl | h
    · exact .inl List.mem_cons_self
    · exact (ih h).imp_left (List.mem_cons_of_mem d)
  | case4 => simp [rewriteArgRefs] at h

theorem newline_not_mem_rewriteHost {l : String} (h : '\n' ∉ l.toList) :
    '\n' ∉ (rewriteHost l).toList := by
  intro hm
  rw [rewriteHost, String.toList_ofList] at hm
  rcases mem_rewriteArgRefs hm with hm | hm
  · rcases mem_rewriteStatusRefs hm with hm | hm
    · exact h hm
    · exact absurd hm (by decide)
  · exact absurd hm (by decide)

theorem takeWhile_isBlank_rewriteHost (l : String) :
    (rewriteHost l).toList.takeWhile isBlank = l.toList.takeWhile isBlank := by
  rw [rewriteHost, String.toList_ofList, takeWhile_isBlank_rewriteArgRefs,
    takeWhile_isBlank_rewriteStatusRefs]

theorem shellCall_toList (command extra : String) :
    (shellCall command extra).toList = 's' :: ("hell(\"" ++ base64 (shellCommand command) ++
      "\", " ++ extra ++ "format_dict=locals())").toList := by
  simp [shellCall]

theorem newline_not_mem_shellCall (command : String) {extra : String} (h : '\n' ∉ extra.toList) :
    '\n' ∉ (shellCall command extra).toList := by
  simp [shellCall, newline_not_mem_base64, h]

theorem shellStatement_toList (l : String) :
    (shellStatement l).toList =
      l.toList.takeWhile isBlank ++ (shellCall (String.ofList (trimStart l.toList)) "").toList := by
  simp [shellStatement, take_sub_trimStart]

theorem newline_not_mem_callText (inner before : List Char) (k : SubstKind) :
    '\n' ∉ callText inner before k := by
  unfold callText
  split_ifs <;> simp [newline_not_mem_base64]

theorem newline_not_mem_spliceCalls {l : List Char} (hl : '\n' ∉ l) :
    ∀ {pos : Nat} {spans : List Span} {out : List Char}, spliceCalls l pos spans = some out →
      '\n' ∉ out
  | pos, [], out, h => fun hm => hl ((infix_of_byteSlice h).subset hm)
  | pos, a :: rest, out, h => by
    simp only [spliceCalls, Option.bind_eq_bind, Option.bind_eq_some_iff, Option.pure_def,
      Option.some.injEq] at h
    obtain ⟨_, -, _, -, _, -, kept, hkept, inner, -, before, -, tail, htail, rfl⟩ := h
    simp only [List.mem_append, not_or]
    exact ⟨⟨fun hm => hl ((infix_of_byteSlice hkept).subset hm),
      newline_not_mem_callText _ _ _⟩, newline_not_mem_spliceCalls hl htail⟩

theorem callText_eq_cons (inner before : List Char) (k : SubstKind) :
    ∃ c, callText inner before k = 's' :: c :=
  ⟨_, by simp [callText]; rfl⟩

theorem takeWhile_isBlank_spliceCalls {l : List Char} {a : Span} {rest : List Span}
    (ha : a.OnLine l) {out : List Char} (h : spliceCalls l 0 (a :: rest) = some out) :
    out.takeWhile isBlank = l.takeWhile isBlank := by
  obtain ⟨i, j, hloc⟩ := ha.located
  rw [show (0 : Nat) = byteLength (l.take 0) by simp, spliceCalls_located hloc (Nat.zero_le i),
    Option.map_eq_some_iff] at h
  obtain ⟨tail, -, rfl⟩ := h
  have hpc : isBlank a.kind.prefixChar = false := by cases a.kind <;> decide
  have hind : l.takeWhile isBlank = (l.take i).takeWhile isBlank := by
    have h := takeWhile_isBlank_append_cons hpc (l.take i) ('(' :: l.drop (i + 2))
    rwa [← hloc.opens, List.take_append_drop] at h
  obtain ⟨c, hc⟩ := callText_eq_cons ((l.drop (i + 2)).take (j - 1 - (i + 2))) (l.take i) a.kind
  rw [hc, List.drop_zero, Nat.sub_zero, List.append_assoc, List.cons_append,
    takeWhile_isBlank_append_cons (by decide), hind]

/-- A host statement with nothing to rewrite: no exit status `$?` and no argument `$N`. -/
def PlainHost (l : String) : Prop :=
  ¬ ['$', '?'] <:+: l.toList ∧ ∀ d, isDecimalDigit d = true → ¬ ['$', d] <:+: l.toList

theorem plainHost_of_dollar_not_mem {l : String} (h : '$' ∉ l.toList) : PlainHost l :=
  ⟨fun hi => h (hi.subset List.mem_cons_self), fun _ _ hi => h (hi.subset List.mem_cons_self)⟩

theorem rewriteHost_of_plainHost {l : String} (h : PlainHost l) : rewriteHost l = l := by
  rw [rewriteHost, rewriteStatusRefs_of_not_infix h.1, rewriteArgRefs_of_plain h.2,
    String.ofList_toList]

/-- The classes under which a statement is emitted as written: a comment, a directive that
already calls `source(`, and a host statement with nothing to rewrite. -/
def Verbatim (l : String) : LineClass → Prop
  | .comment => True
  | .directive => "source(".toList <+: trimStart l.toList
  | .host => PlainHost l
  | .shell | .blended => False

theorem emitLine_of_verbatim {spans : List Span} {idx : Nat} {l : String} {c : LineClass}
    (h : Verbatim l c) : emitLine spans idx l c = .ok l := by
  cases c
  case comment => rfl
  case host => rw [emitLine, rewriteHost_of_plainHost h]; rfl
  case directive => simp only [emitLine, List.isPrefixOf_iff_prefix.2 h, if_true]; rfl
  all_goals exact h.elim

/-- What an emitted line keeps of its statement: it stays on one line and keeps the statement's
leading blanks. -/
structure KeepsLine (l e : String) : Prop where
  newline_not_mem : '\n' ∉ e.toList
  indent : e.toList.takeWhile isBlank = l.toList.takeWhile isBlank

theorem KeepsLine.refl {l : String} (h : '\n' ∉ l.toList) : KeepsLine l l :=
  ⟨h, rfl⟩

theorem keepsLine_rewriteHost {l : String} (h : '\n' ∉ l.toList) : KeepsLine l (rewriteHost l) :=
  ⟨newline_not_mem_rewriteHost h, takeWhile_isBlank_rewriteHost l⟩

theorem keepsLine_shellStatement {l : String} (h : '\n' ∉ l.toList) :
    KeepsLine l (shellStatement l) := by
  refine ⟨?_, ?_⟩
  · rw [shellStatement_toList, List.mem_append, not_or]
    exact ⟨fun hm => h ((List.takeWhile_prefix _).subset hm),
      newline_not_mem_shellCall _ (by simp)⟩
  · rw [shellStatement_toList, shellCall_toList, takeWhile_isBlank_append_cons (by decide),
      takeWhile_takeWhile_isBlank]

theorem keepsLine_spliceCalls {l : String} (h : '\n' ∉ l.toList) {a : Span} {rest : List Span}
    (ha : a.OnLine l.toList) {out : List Char}
    (hs : spliceCalls l.toList 0 (a :: rest) = some out) :
    KeepsLine l (String.ofList out) := by
  refine ⟨?_, ?_⟩ <;> rw [String.toList_ofList]
  · exact newline_not_mem_spliceCalls h hs
  · exact takeWhile_isBlank_spliceCalls ha hs

end Target

end MixedScript

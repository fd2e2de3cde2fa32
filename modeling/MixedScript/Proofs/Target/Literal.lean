import MixedScript.Target.Preamble

/-!
# Short string literals of the host language

How the host reads a single-quoted literal, in its two passes: the tokenizer finds where it
ends, then a small machine decodes its escapes. The reading follows the host's grammar, not the
compiler's quoting read backwards.
-/

namespace MixedScript.Target.Literal

/-- Where a literal opened by the quote `q` ends: its body as written and the text after the
closing quote. A backslash takes the next character along, and a carriage return after a
backslash takes the newline that follows it too. -/
def extent (q : Char) : List Char → Option (List Char × List Char)
  | [] => none
  | '\\' :: '\r' :: '\n' :: r => (extent q r).map fun p => ('\\' :: '\r' :: '\n' :: p.1, p.2)
  | '\\' :: c :: r =>
    if c = '\x00' then none else (extent q r).map fun p => ('\\' :: c :: p.1, p.2)
  | c :: r =>
    if c = q then some ([], r)
    else if c = '\n' ∨ c = '\r' ∨ c = '\x00' then none
    else (extent q r).map fun p => (c :: p.1, p.2)

/-- The value of an octal digit. -/
def octDigit? (c : Char) : Option Nat :=
  if '0' ≤ c ∧ c ≤ '7' then some (c.toNat - '0'.toNat) else none

/-- The value of a hexadecimal digit, in either case. -/
def hexDigit? (c : Char) : Option Nat :=
  if '0' ≤ c ∧ c ≤ '9' then some (c.toNat - '0'.toNat)
  else if 'a' ≤ c ∧ c ≤ 'f' then some (c.toNat - 'a'.toNat + 10)
  else if 'A' ≤ c ∧ c ≤ 'F' then some (c.toNat - 'A'.toNat + 10)
  else none

/-- Where the decoder of a body stands between two characters. -/
inductive Escape where
  /-- Outside any escape. -/
  | plain
  /-- Just after a backslash. -/
  | backslash
  /-- After a backslash and a carriage return, which a newline may complete. -/
  | carriage
  /-- Inside an octal escape, with the number of digits read and their value. -/
  | octal (digits value : Nat)
  /-- Inside a hexadecimal escape, with the digits still to read, the value so far and the
  largest value the escape may denote. -/
  | hex (left value limit : Nat)
  deriving DecidableEq, Repr

/-- A character read outside any escape: a backslash opens one, any other stands for itself. -/
def plainChar (c : Char) : Escape × List Nat :=
  if c = '\\' then (.backslash, []) else (.plain, [c.toNat])

/-- The escape that a backslash and the character `c` begin, with what it denotes so far. -/
def afterBackslash (c : Char) : Option (Escape × List Nat) :=
  match c with
  | '\n' => some (.plain, [])
  | '\r' => some (.carriage, [])
  | '\\' => some (.plain, ['\\'.toNat])
  | '\'' => some (.plain, ['\''.toNat])
  | '"' => some (.plain, ['"'.toNat])
  | 'a' => some (.plain, [7])
  | 'b' => some (.plain, [8])
  | 'f' => some (.plain, [12])
  | 'n' => some (.plain, [10])
  | 'r' => some (.plain, [13])
  | 't' => some (.plain, [9])
  | 'v' => some (.plain, [11])
  | 'x' => some (.hex 2 0 0xFF, [])
  | 'u' => some (.hex 4 0 0xFFFF, [])
  | 'U' => some (.hex 8 0 0x10FFFF, [])
  | 'N' => none
  | c =>
    match octDigit? c with
    | some d => some (.octal 1 d, [])
    | none => some (.plain, ['\\'.toNat, c.toNat])

/-- One character of a body: the decoder's next state and the code points it completes. -/
def step : Escape → Char → Option (Escape × List Nat)
  | .plain, c => some (plainChar c)
  | .backslash, c => afterBackslash c
  | .carriage, c => if c = '\n' then some (.plain, []) else some (plainChar c)
  | .octal k v, c =>
    match octDigit? c with
    | some d =>
      if k < 3 then some (.octal (k + 1) (8 * v + d), []) else some ((plainChar c).map id (v :: ·))
    | none => some ((plainChar c).map id (v :: ·))
  | .hex n v lim, c =>
    match hexDigit? c with
    | some d =>
      if n = 1 then (if 16 * v + d ≤ lim then some (.plain, [16 * v + d]) else none)
      else some (.hex (n - 1) (16 * v + d) lim, [])
    | none => none

/-- Decodes the characters of a body from a state: the state reached and the code points. -/
def decodeFrom : Escape → List Char → Option (Escape × List Nat)
  | e, [] => some (e, [])
  | e, c :: cs =>
    match step e c with
    | none => none
    | some (e', out) => (decodeFrom e' cs).map fun p => (p.1, out ++ p.2)

/-- What the body's last escape still denotes once the body ends. -/
def finish : Escape → Option (List Nat)
  | .plain | .carriage => some []
  | .octal _ v => some [v]
  | .backslash | .hex .. => none

/-- The value of a literal's body. -/
def decode (body : List Char) : Option (List Nat) := do
  let (e, out) ← decodeFrom .plain body
  let tail ← finish e
  pure (out ++ tail)

/-- A quote that opens a short literal. -/
def isQuote (c : Char) : Bool :=
  c = '\'' || c = '"'

/-- Reads a short string literal at the start of a text: its value and the text after it. -/
def read : List Char → Option (List Nat × List Char)
  | [] => none
  | q :: r =>
    if isQuote q ∧ r.take 2 ≠ [q, q] then do
      let (body, rest) ← extent q r
      let v ← decode body
      pure (v, rest)
    else none

/-- The code points of a text. -/
def codePoints (s : String) : List Nat :=
  s.toList.map Char.toNat

theorem eq_of_extent {q : Char} {r b t : List Char} (h : extent q r = some (b, t)) :
    r = b ++ q :: t := by
  fun_induction extent q r generalizing b t with
  | case1 | case3 | case6 => cases h
  | case5 =>
    cases h
    rfl
  | case2 _ ih | case4 _ _ _ _ ih | case7 _ _ _ _ _ _ ih =>
    -- The text read so far goes in front of the body of the rest.
    obtain ⟨p, hp, hpe⟩ := Option.map_eq_some_iff.1 h
    cases hpe
    simp [ih hp]

theorem length_lt_of_read {cs r : List Char} {v : List Nat} (h : read cs = some (v, r)) :
    r.length < cs.length := by
  cases cs with
  | nil => cases h
  | cons q r₀ =>
    simp only [read] at h
    split at h
    · obtain ⟨⟨body, rest⟩, hx, h⟩ := Option.bind_eq_some_iff.1 h
      obtain ⟨w, -, h⟩ := Option.bind_eq_some_iff.1 h
      cases h
      rw [eq_of_extent hx, List.length_cons, List.length_append, List.length_cons]
      dsimp only
      omega
    · cases h

/-! ## List displays -/

/-- A blank between the tokens of a display: inside brackets a line break is blank too. -/
def isBlank (c : Char) : Bool :=
  c = ' ' || c = '\t' || c = '\x0c' || c = '\n' || c = '\r'

theorem length_dropWhile_isBlank_le (r : List Char) : (r.dropWhile isBlank).length ≤ r.length :=
  (List.dropWhile_sublist isBlank).length_le

/-- Reads one string: literals that follow each other, with blanks between them, are joined. -/
def readString (cs : List Char) : Option (List Nat × List Char) :=
  match _hread : read cs with
  | none => none
  | some (v, r) =>
    match _hrest : r.dropWhile isBlank with
    | q :: t =>
      if isQuote q then (readString (q :: t)).map fun p => (v ++ p.1, p.2) else some (v, r)
    | [] => some (v, r)
termination_by cs.length
decreasing_by
  have hr := length_lt_of_read _hread
  have hd := length_dropWhile_isBlank_le r
  rw [_hrest] at hd
  exact Nat.lt_of_le_of_lt hd hr

theorem length_lt_of_readString {cs r : List Char} {v : List Nat}
    (h : readString cs = some (v, r)) : r.length < cs.length := by
  fun_induction readString cs generalizing v r with
  | case1 => cases h
  | case2 cs v₀ r₀ hread q t hdrop hq ih =>
    obtain ⟨p, hp, hpe⟩ := Option.map_eq_some_iff.1 h
    cases hpe
    have hd := length_dropWhile_isBlank_le r₀
    rw [hdrop] at hd
    exact Nat.lt_trans (ih hp) (Nat.lt_of_le_of_lt hd (length_lt_of_read hread))
  | case3 cs v₀ r₀ hread q t hdrop hq =>
    cases h
    exact length_lt_of_read hread
  | case4 cs v₀ r₀ hread hdrop =>
    cases h
    exact length_lt_of_read hread

/-- Reads the items of a list display after its opening bracket, through the closing one. Each
item is followed by a comma or by the closing bracket, and a comma may end the list. -/
def readItems : List Char → Option (List (List Nat) × List Char)
  | [] => none
  | c :: t =>
    if isBlank c then readItems t
    else if c = ']' then some ([], t)
    else
      match _hread : readString (c :: t) with
      | none => none
      | some (v, r) =>
        match _hrest : r.dropWhile isBlank with
        | ',' :: t' => (readItems t').map fun p => (v :: p.1, p.2)
        | ']' :: t' => some ([v], t')
        | _ => none
termination_by cs => cs.length
decreasing_by
  · simp
  · have hr := length_lt_of_readString _hread
    have hd := length_dropWhile_isBlank_le r
    rw [_hrest] at hd
    simp only [List.length_cons] at hd hr ⊢
    omega

theorem readString_of_read {cs r : List Char} {v : List Nat} (h : read cs = some (v, r))
    (hnext : ∀ q t, r.dropWhile isBlank = q :: t → isQuote q = false) :
    readString cs = some (v, r) := by
  rw [readString]
  split
  · simp_all
  · rename_i v' r' hread
    rw [h, Option.some.injEq, Prod.mk.injEq] at hread
    obtain ⟨rfl, rfl⟩ := hread
    split
    · rename_i q t hdrop
      rw [if_neg (by simp [hnext q t hdrop])]
    · rfl

theorem readItems_blank {c : Char} (hc : isBlank c = true) (t : List Char) :
    readItems (c :: t) = readItems t := by
  rw [readItems, if_pos hc]

theorem readItems_item {c : Char} {t r : List Char} {v : List Nat} (hb : isBlank c = false)
    (hc : c ≠ ']') (h : readString (c :: t) = some (v, r)) :
    readItems (c :: t) = match r.dropWhile isBlank with
      | ',' :: t' => (readItems t').map fun p => (v :: p.1, p.2)
      | ']' :: t' => some ([v], t')
      | _ => none := by
  rw [readItems, if_neg (by simp [hb]), if_neg hc]
  split
  · simp_all
  · rename_i v' r' hread
    rw [h, Option.some.injEq, Prod.mk.injEq] at hread
    obtain ⟨rfl, rfl⟩ := hread
    split <;> split <;> simp_all

/-- Reads a list display of strings: the strings' values and the text after the display. -/
def readDisplay : List Char → Option (List (List Nat) × List Char)
  | '[' :: r => readItems r
  | _ => none

/-! ## Reading back the compiler's single-quoted literals -/

/-- How the compiler writes one character inside a single-quoted literal. -/
def singleEscape (c : Char) : List Char :=
  (match c with
    | '\\' => "\\\\"
    | '\'' => "\\'"
    | '\n' => "\\n"
    | '\r' => "\\r"
    | '\t' => "\\t"
    | other => other.toString).toList

theorem quoteSingle_toList (s : String) :
    (quoteSingle s).toList = '\'' :: s.toList.flatMap singleEscape ++ ['\''] := by
  simp only [quoteSingle, String.toList_append, String.toList_join, List.flatMap_map]
  rfl

theorem extent_singleEscape {c : Char} (hc : c ≠ '\x00') (r : List Char) :
    extent '\'' (singleEscape c ++ r) =
      (extent '\'' r).map fun p => (singleEscape c ++ p.1, p.2) := by
  unfold singleEscape
  split
  case h_6 h₁ h₂ h₃ h₄ h₅ =>
    have hne : c ≠ '\\' ∧ c ≠ '\'' ∧ c ≠ '\n' ∧ c ≠ '\r' := ⟨h₁, h₂, h₃, h₄⟩
    simp [extent, hne, hc]
  all_goals simp [extent]

theorem decodeFrom_singleEscape (c : Char) :
    decodeFrom .plain (singleEscape c) = some (.plain, [c.toNat]) := by
  unfold singleEscape
  split
  case h_6 h₁ _ _ _ _ =>
    simp only [Char.toString_eq_singleton, String.toList_singleton, decodeFrom, step, plainChar]
    rw [if_neg h₁]
    rfl
  all_goals rfl

theorem singleEscape_ne_nil (c : Char) : singleEscape c ≠ [] := by
  unfold singleEscape
  split <;> simp

theorem head?_singleEscape (c : Char) : (singleEscape c).head? ≠ some '\'' := by
  unfold singleEscape
  split
  case h_6 _ h₂ _ _ _ => simpa using h₂
  all_goals simp

theorem lineBreak_not_mem_singleEscape (c : Char) :
    '\n' ∉ singleEscape c ∧ '\r' ∉ singleEscape c := by
  unfold singleEscape
  split
  case h_6 _ _ h₃ h₄ _ => simpa [eq_comm] using ⟨h₃, h₄⟩
  all_goals simp

theorem extent_flatMap_singleEscape {s : List Char} (hs : '\x00' ∉ s) (rest : List Char) :
    extent '\'' (s.flatMap singleEscape ++ '\'' :: rest) = some (s.flatMap singleEscape, rest) := by
  induction s with
  | nil => simp [extent]
  | cons c s ih =>
    rw [List.mem_cons, not_or] at hs
    rw [List.flatMap_cons, List.append_assoc, extent_singleEscape (Ne.symm hs.1), ih hs.2]
    rfl

theorem decodeFrom_append (e : Escape) (a b : List Char) :
    decodeFrom e (a ++ b) = (decodeFrom e a).bind fun p =>
      (decodeFrom p.1 b).map fun q => (q.1, p.2 ++ q.2) := by
  induction a generalizing e with
  | nil => cases h : decodeFrom e b <;> simp [decodeFrom, h]
  | cons c a ih =>
    simp only [List.cons_append, decodeFrom]
    rcases step e c with _ | ⟨e₁, out₁⟩
    · rfl
    · dsimp only
      rw [ih]
      rcases decodeFrom e₁ a with _ | ⟨e₂, out₂⟩
      · rfl
      · simp only [Option.map_some, Option.bind_some, Option.map_map, List.append_assoc]
        rfl

theorem decodeFrom_flatMap_singleEscape (s : List Char) :
    decodeFrom .plain (s.flatMap singleEscape) = some (.plain, s.map Char.toNat) := by
  induction s with
  | nil => rfl
  | cons c s ih => simp [List.flatMap_cons, decodeFrom_append, decodeFrom_singleEscape, ih]

theorem read_quoteSingle {s : String} (hs : '\x00' ∉ s.toList) {rest : List Char}
    (hrest : s = "" → rest.head? ≠ some '\'') :
    '\n' ∉ (quoteSingle s).toList ∧ '\r' ∉ (quoteSingle s).toList ∧
      read ((quoteSingle s).toList ++ rest) = some (codePoints s, rest) := by
  refine ⟨by simp [quoteSingle_toList, fun c => (lineBreak_not_mem_singleEscape c).1],
    by simp [quoteSingle_toList, fun c => (lineBreak_not_mem_singleEscape c).2], ?_⟩
  -- The body does not open with two quotes, so the literal is a short one.
  have hshort : (s.toList.flatMap singleEscape ++ '\'' :: rest).take 2 ≠ ['\'', '\''] := by
    cases hcs : s.toList with
    | nil =>
      have hr := hrest (String.toList_eq_nil_iff.1 hcs)
      cases rest with
      | nil => simp
      | cons x _ => simpa using hr
    | cons c _ =>
      obtain ⟨x, xs, hx⟩ := List.exists_cons_of_ne_nil (singleEscape_ne_nil c)
      have hh : x ≠ '\'' := by simpa [hx] using head?_singleEscape c
      rw [List.flatMap_cons, hx]
      simp [hh]
  rw [quoteSingle_toList]
  simp only [List.cons_append, List.append_assoc]
  rw [read, if_pos ⟨rfl, hshort⟩, extent_flatMap_singleEscape hs]
  simp [decode, decodeFrom_flatMap_singleEscape, finish, codePoints]

theorem quoteSingle_append (s : String) (x : List Char) :
    (quoteSingle s).toList ++ x = '\'' :: (s.toList.flatMap singleEscape ++ '\'' :: x) := by
  simp [quoteSingle_toList]

theorem readString_quoteSingle {s : String} (hs : '\x00' ∉ s.toList) {c : Char} {t : List Char}
    (hb : isBlank c = false) (hq : isQuote c = false) :
    readString ((quoteSingle s).toList ++ c :: t) = some (codePoints s, c :: t) := by
  have hc : c ≠ '\'' := by
    rintro rfl
    simp [isQuote] at hq
  refine readString_of_read (read_quoteSingle hs fun _ => by simpa using hc).2.2 fun q t' h => ?_
  rw [List.dropWhile_cons_of_neg (by simp [hb])] at h
  cases h
  exact hq

theorem readItems_quoteSingle {s : String} {ss : List String}
    (hs : ∀ x ∈ s :: ss, '\x00' ∉ x.toList) (rest : List Char) :
    readItems ((", ".intercalate ((s :: ss).map quoteSingle)).toList ++ ']' :: rest) =
      some ((s :: ss).map codePoints, rest) := by
  induction ss generalizing s with
  | nil =>
    have hr := readString_quoteSingle (hs s (by simp)) (t := rest) (c := ']') rfl rfl
    rw [quoteSingle_append] at hr
    simp only [List.map_cons, List.map_nil, String.intercalate_singleton]
    rw [quoteSingle_append, readItems_item rfl (by decide) hr]
    rfl
  | cons s' ss ih =>
    have hrest := ih fun x hx => hs x (List.mem_cons_of_mem s hx)
    have hr := readString_quoteSingle (hs s (by simp)) (c := ',') (t := ' ' ::
      ((", ".intercalate ((s' :: ss).map quoteSingle)).toList ++ ']' :: rest)) rfl rfl
    rw [quoteSingle_append] at hr
    -- The first literal, the separator, then the items that follow.
    have htext : (", ".intercalate ((s :: s' :: ss).map quoteSingle)).toList ++ ']' :: rest =
        (quoteSingle s).toList ++ ',' :: ' ' ::
          ((", ".intercalate ((s' :: ss).map quoteSingle)).toList ++ ']' :: rest) := by
      simp only [List.map_cons, String.intercalate_cons_cons, String.toList_append]
      simp
    rw [htext, quoteSingle_append, readItems_item rfl (by decide) hr]
    simp only [List.dropWhile_cons_of_neg (by decide : ¬ isBlank ',' = true)]
    rw [readItems_blank rfl, hrest]
    rfl

/-- The compiler's list display of texts without NUL characters is read back as the list of
the texts, and reading stops right after its closing bracket. -/
theorem readDisplay_quoteSingle {ss : List String} (hs : ∀ s ∈ ss, '\x00' ∉ s.toList)
    (rest : List Char) :
    readDisplay (("[" ++ ", ".intercalate (ss.map quoteSingle) ++ "]").toList ++ rest) =
      some (ss.map codePoints, rest) := by
  have htext : ("[" ++ ", ".intercalate (ss.map quoteSingle) ++ "]").toList ++ rest =
      '[' :: ((", ".intercalate (ss.map quoteSingle)).toList ++ ']' :: rest) := by
    simp
  rw [htext, readDisplay]
  cases ss with
  | nil =>
    rw [List.map_nil, String.intercalate_nil, String.toList_empty, List.nil_append, readItems,
      if_neg (by decide), if_pos rfl, List.map_nil]
  | cons s ss => exact readItems_quoteSingle hs rest

end MixedScript.Target.Literal

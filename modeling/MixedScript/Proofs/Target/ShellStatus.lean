import Mathlib.Tactic.SplitIfs
import MixedScript.Proofs.Layout.Cells
import MixedScript.Target.ShellText

/-!
# Which exit-status references a shell command reads

The status rewrite reads a command with its own reader, which knows single and double quotes and
backslashes and nothing else: a `#` is an ordinary character, so a quote inside a shell comment
opens a quoted stretch that the comment never closes. Each `$?` is replaced exactly when that
reader stands outside single quotes with the `$` unescaped, and the text between occurrences is
copied.
-/

namespace MixedScript

open MixedScript.Text MixedScript.Layout

namespace Target

/-- Where a shell reader stands: inside which quotes, and whether a backslash escapes the next
character. -/
structure QuoteState where
  quoting : Quoting
  escaped : Bool
deriving DecidableEq, Repr

namespace QuoteState

/-- Reads one character: outside single quotes a backslash escapes the next character; an
unescaped `'` outside double quotes opens single quotes, which only `'` closes; an unescaped `"`
outside single quotes opens or closes double quotes. Nothing else, `#` included, changes the
quoting. -/
def read (s : QuoteState) (c : Char) : QuoteState :=
  match s.quoting with
  | .single => ⟨if c = '\'' then .unquoted else .single, false⟩
  | q =>
    if c = '\\' ∧ s.escaped = false then ⟨q, true⟩
    else if q = .unquoted ∧ c = '\'' ∧ s.escaped = false then ⟨.single, false⟩
    else if q = .unquoted ∧ c = '"' ∧ s.escaped = false then ⟨.double, false⟩
    else if q = .double ∧ c = '"' ∧ s.escaped = false then ⟨.unquoted, false⟩
    else ⟨q, false⟩

/-- Where the reader stands after a text. -/
def readAll (s : QuoteState) (cs : List Char) : QuoteState :=
  cs.foldl read s

/-- A `$` read here is neither escaped nor in single quotes. -/
def open? (s : QuoteState) : Bool :=
  s.quoting != .single && !s.escaped

@[simp] theorem readAll_nil (s : QuoteState) : s.readAll [] = s := rfl

@[simp] theorem readAll_cons (s : QuoteState) (c : Char) (cs : List Char) :
    s.readAll (c :: cs) = (s.read c).readAll cs := rfl

theorem readAll_append (s : QuoteState) (xs ys : List Char) :
    s.readAll (xs ++ ys) = (s.readAll xs).readAll ys :=
  List.foldl_append

theorem read_dollar_question (s : QuoteState) :
    (s.read '$').read '?' = ⟨s.quoting, false⟩ := by
  rcases s with ⟨_ | _ | _, _ | _⟩ <;> rfl

end QuoteState

open QuoteState

theorem rewriteStatus_cons (s : QuoteState) (c : Char) (rest : List Char)
    (h : ¬ (c = '$' ∧ s.open? = true ∧ rest.head? = some '?')) :
    rewriteStatus s.quoting s.escaped (c :: rest) =
      c :: rewriteStatus (s.read c).quoting (s.read c).escaped rest := by
  rcases s with ⟨q, e⟩
  cases q
  case single => simp [rewriteStatus, QuoteState.read]
  all_goals
    simp only [rewriteStatus, QuoteState.read, QuoteState.open?] at h ⊢
    split_ifs <;> simp_all

theorem rewriteStatus_status (s : QuoteState) (hs : s.open? = true) (rest : List Char) :
    rewriteStatus s.quoting s.escaped ('$' :: '?' :: rest) =
      expansion rcVariable.toList ++ rewriteStatus s.quoting false rest := by
  rcases s with ⟨q, e⟩
  simp only [open?, Bool.and_eq_true, bne_iff_ne, ne_eq, Bool.not_eq_eq_eq_not,
    Bool.not_true] at hs
  obtain ⟨hq, rfl⟩ := hs
  cases q
  case single => exact absurd rfl hq
  all_goals simp [rewriteStatus]

theorem rewriteStatus_append (s : QuoteState) (pre : List Char) {x : Char} (hx : x ≠ '?')
    (rest : List Char) :
    rewriteStatus s.quoting s.escaped (pre ++ x :: rest) =
      rewriteStatus s.quoting s.escaped pre ++
        rewriteStatus (s.readAll pre).quoting (s.readAll pre).escaped (x :: rest) := by
  match pre with
  | [] => simp [rewriteStatus]
  | c :: pre' =>
    by_cases hst : c = '$' ∧ s.open? = true ∧ pre'.head? = some '?'
    · obtain ⟨rfl, hs, hq⟩ := hst
      obtain ⟨pre'', rfl⟩ : ∃ pre'', pre' = '?' :: pre'' := by
        cases pre' with
        | nil => cases hq
        | cons y pre'' =>
          obtain rfl := Option.some.inj hq
          exact ⟨pre'', rfl⟩
      have ih := rewriteStatus_append ⟨s.quoting, false⟩ pre'' hx rest
      dsimp only at ih
      -- A replaced `$?` leaves the reader where it was, with nothing escaped.
      rw [List.cons_append, List.cons_append, rewriteStatus_status s hs, rewriteStatus_status s hs,
        ih, readAll_cons, readAll_cons, read_dollar_question, List.append_assoc]
    · have hst' : ¬ (c = '$' ∧ s.open? = true ∧ (pre' ++ x :: rest).head? = some '?') := by
        cases pre' <;> simp_all
      rw [List.cons_append, rewriteStatus_cons s c _ hst', rewriteStatus_cons s c _ hst,
        rewriteStatus_append (s.read c) pre' hx rest, readAll_cons, List.cons_append]
termination_by pre.length

theorem rewriteStatus_of_not_infix (s : QuoteState) {cs : List Char}
    (h : ¬ ['$', '?'] <:+: cs) : rewriteStatus s.quoting s.escaped cs = cs := by
  induction cs generalizing s with
  | nil => simp [rewriteStatus]
  | cons c cs ih =>
    have hst : ¬ (c = '$' ∧ s.open? = true ∧ cs.head? = some '?') := by
      rintro ⟨rfl, -, hq⟩
      obtain ⟨cs', rfl⟩ : ∃ cs', cs = '?' :: cs' := by
        cases cs with
        | nil => cases hq
        | cons y cs' =>
          obtain rfl := Option.some.inj hq
          exact ⟨cs', rfl⟩
      exact h (List.prefix_append ['$', '?'] cs').isInfix
    rw [rewriteStatus_cons s c cs hst,
      ih _ fun hi => h (hi.trans (List.suffix_cons c cs).isInfix)]

theorem rewriteStatus_append_status (s : QuoteState) (pre post : List Char) :
    rewriteStatus s.quoting s.escaped (pre ++ '$' :: '?' :: post) =
      rewriteStatus s.quoting s.escaped pre ++
        (if (s.readAll pre).open? then expansion rcVariable.toList else ['$', '?']) ++
        rewriteStatus (s.readAll (pre ++ ['$', '?'])).quoting
          (s.readAll (pre ++ ['$', '?'])).escaped post := by
  rw [rewriteStatus_append s pre (by decide), readAll_append, List.append_assoc]
  congr 1
  cases ho : (s.readAll pre).open?
  · -- Not open: the `$` and then the `?` are copied and read like any other character.
    rw [rewriteStatus_cons _ '$' _ (by simp [ho]), rewriteStatus_cons _ '?' _ (by simp)]
    rfl
  · rw [rewriteStatus_status _ ho, readAll_cons, readAll_cons, readAll_nil, read_dollar_question]
    rfl

/-- The status rewrite leaves a text without `$?` as it is, and replaces an occurrence of `$?`
exactly when a reader that knows quotes and backslashes, and nothing of comments, finds its `$`
unescaped and outside single quotes. -/
theorem rewriteStatus_replaces_open_status (s : QuoteState) :
    (∀ cs, ¬ ['$', '?'] <:+: cs → rewriteStatus s.quoting s.escaped cs = cs) ∧
    ∀ pre post, rewriteStatus s.quoting s.escaped (pre ++ '$' :: '?' :: post) =
      rewriteStatus s.quoting s.escaped pre ++
        (if (s.readAll pre).open? then expansion rcVariable.toList else ['$', '?']) ++
        rewriteStatus (s.readAll (pre ++ ['$', '?'])).quoting
          (s.readAll (pre ++ ['$', '?'])).escaped post :=
  ⟨fun _ h => rewriteStatus_of_not_infix s h, rewriteStatus_append_status s⟩

theorem prefix_of_envNameAt {cs name : List Char} (h : envNameAt cs = some name) :
    "env.".toList <+: cs := by
  unfold envNameAt at h
  split at h
  · exact List.isPrefixOf_iff_prefix.1 ‹_›
  · cases h

theorem rewriteEnvAfter_of_not_infix {cs : List Char} (h : ¬ "env.".toList <:+: cs) :
    rewriteEnvRefs.rewriteEnvAfter cs = cs := by
  induction cs using rewriteEnvRefs.rewriteEnvAfter.induct with
  | case1 => rw [rewriteEnvRefs.rewriteEnvAfter]
  | case2 c rest hc ih =>
    rw [rewriteEnvRefs.rewriteEnvAfter, if_pos hc,
      ih fun hi => h (hi.trans (List.suffix_cons c rest).isInfix)]
  | case3 c rest hc name hname ih =>
    exact absurd ((prefix_of_envNameAt hname).isInfix.trans (List.suffix_cons c rest).isInfix) h
  | case4 c rest hc hname ih =>
    rw [rewriteEnvRefs.rewriteEnvAfter, if_neg hc, hname,
      ih fun hi => h (hi.trans (List.suffix_cons c rest).isInfix)]

theorem rewriteEnvRefs_of_not_infix {cs : List Char} (h : ¬ "env.".toList <:+: cs) :
    rewriteEnvRefs cs = cs := by
  cases hn : envNameAt cs with
  | none =>
    rw [rewriteEnvRefs, hn]
    exact rewriteEnvAfter_of_not_infix h
  | some name => exact absurd (prefix_of_envNameAt hn).isInfix h

/-- The cells of the command `{ # don't`, `echo $?`, `}` written on three lines that soft
breaks join. -/
def braceGroupCells : List Cell :=
  "\x7b # don't".toList.map .char ++ .soft :: "echo $?".toList.map .char ++ .soft ::
    "\x7d".toList.map .char

theorem shellCommand_quote_in_comment :
    (⟨.unquoted, false⟩ : QuoteState).readAll ("\x7b # don't" ++ marker ++ "echo ").toList =
        ⟨.single, false⟩ ∧
      shellCommand ("\x7b # don't" ++ marker ++ "echo $?" ++ marker ++ "\x7d") =
        "\x7b # don't\necho $?\n\x7d" := by
  have hread : (⟨.unquoted, false⟩ : QuoteState).readAll
      ("\x7b # don't" ++ marker ++ "echo ").toList = ⟨.single, false⟩ := by decide
  have htext : ("\x7b # don't" ++ marker ++ "echo $?" ++ marker ++ "\x7d").toList =
      ("\x7b # don't" ++ marker ++ "echo ").toList ++ '$' :: '?' :: (marker ++ "\x7d").toList := by
    decide
  have hpre : '?' ∉ ("\x7b # don't" ++ marker ++ "echo ").toList := by decide
  have hpost : '?' ∉ (marker ++ "\x7d").toList := by decide
  -- The `$?` stands in the single quotes the apostrophe opened, and nothing else is rewritten.
  have hstatus : rewriteStatus (⟨.unquoted, false⟩ : QuoteState).quoting
      (⟨.unquoted, false⟩ : QuoteState).escaped
      ("\x7b # don't" ++ marker ++ "echo $?" ++ marker ++ "\x7d").toList =
      ("\x7b # don't" ++ marker ++ "echo $?" ++ marker ++ "\x7d").toList := by
    rw [htext, (rewriteStatus_replaces_open_status _).2, hread,
      (rewriteStatus_replaces_open_status _).1 _ fun hi => hpre (hi.subset (by simp)),
      (rewriteStatus_replaces_open_status _).1 _ fun hi => hpost (hi.subset (by simp))]
    simp [QuoteState.open?]
  dsimp only at hstatus
  refine ⟨hread, ?_⟩
  have hcells : renderCells braceGroupCells =
      ("\x7b # don't" ++ marker ++ "echo $?" ++ marker ++ "\x7d").toList := by
    decide
  have hsource : sourceCells braceGroupCells = "\x7b # don't\necho $?\n\x7d".toList := by decide
  have henv : 'v' ∉ ("\x7b # don't" ++ marker ++ "echo $?" ++ marker ++ "\x7d").toList := by
    decide
  rw [shellCommand, rewriteEnvRefs_of_not_infix fun hi => henv (hi.subset (by simp)), hstatus,
    ← hcells, unfoldChars_renderCells (hsource ▸ markerFree_of_not_mem (by decide)), hsource,
    String.ofList_toList]

end Target

end MixedScript

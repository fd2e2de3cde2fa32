import Mathlib.Data.List.TakeDrop
import Mathlib.Data.List.TakeWhile
import MixedScript.Config

/-!
# Loading a settings text

`setLine` applies exactly the setting a line holds validly and fails on every other line,
without a change. So loading is a fold over the valid settings: each field holds the value of
the last line that sets it validly, and the errors are the other lines that hold a setting.
-/

namespace MixedScript.Config

open MixedScript.Text

/-- A key set to a valid value. -/
inductive Setting where
  | python (cmd : String)
  | shell (cmd : String)
  | maxImportDepth (n : Nat)
  | color (m : ColorMode)
deriving DecidableEq, Repr

namespace Setting

/-- The setting of a key to a value, when the value is valid for the key. -/
def of (key value : String) : Option Setting :=
  match key with
  | "python" => if value.isEmpty then none else some (.python value)
  | "shell" => if value.isEmpty then none else some (.shell value)
  | "max_import_depth" => ((parseCount? value).filter (0 < ·)).map .maxImportDepth
  | "color" => (ColorMode.parse? value).map .color
  | _ => none

/-- What a line sets validly: split at its first `=`, the key trimmed, the value trimmed and
without one pair of double quotes. -/
def ofLine (line : List Char) : Option Setting :=
  match line.span (· != '=') with
  | (key, _ :: value) => of (String.ofList (trim key)) (String.ofList (unquote (trim value)))
  | (_, []) => none

/-- The settings with one key set. -/
def apply : Setting → Config → Config
  | .python v, c => { c with python := v }
  | .shell v, c => { c with shell := v }
  | .maxImportDepth n, c => { c with maxImportDepth := n }
  | .color m, c => { c with color := m }

/-- The command a setting gives `python`. -/
def python? : Setting → Option String
  | .python v => some v
  | _ => none

/-- The command a setting gives `shell`. -/
def shell? : Setting → Option String
  | .shell v => some v
  | _ => none

/-- The limit a setting gives `max_import_depth`. -/
def maxImportDepth? : Setting → Option Nat
  | .maxImportDepth n => some n
  | _ => none

/-- The colour mode a setting gives `color`. -/
def color? : Setting → Option ColorMode
  | .color m => some m
  | _ => none

@[simp] theorem python_apply (st : Setting) (c : Config) :
    (st.apply c).python = st.python?.getD c.python := by
  cases st <;> rfl

@[simp] theorem shell_apply (st : Setting) (c : Config) :
    (st.apply c).shell = st.shell?.getD c.shell := by
  cases st <;> rfl

@[simp] theorem maxImportDepth_apply (st : Setting) (c : Config) :
    (st.apply c).maxImportDepth = st.maxImportDepth?.getD c.maxImportDepth := by
  cases st <;> rfl

@[simp] theorem color_apply (st : Setting) (c : Config) :
    (st.apply c).color = st.color?.getD c.color := by
  cases st <;> rfl

end Setting

theorem foldl_apply_field {α : Type} (f : Config → α) (e : Setting → Option α)
    (hf : ∀ st c, f (st.apply c) = (e st).getD (f c)) (sts : List Setting) (c : Config) :
    f (sts.foldl (fun c st => st.apply c) c) = ((sts.filterMap e).getLast?).getD (f c) := by
  induction sts generalizing c with
  | nil => rfl
  | cons st sts ih =>
    rw [List.foldl_cons, ih, hf]
    cases he : e st with
    | none => simp [he]
    | some a =>
      rw [List.filterMap_cons, he, List.getLast?_cons, Option.getD_some]
      cases (sts.filterMap e).getLast? <;> rfl

theorem not_mem_of_dropWhile_eq_nil {line : List Char}
    (h : line.dropWhile (· != '=') = []) : '=' ∉ line := by
  rw [List.dropWhile_eq_nil_iff] at h
  exact fun hm => by simpa using h '=' hm

theorem dropWhile_eq_cons {line v : List Char} {e : Char}
    (h : line.dropWhile (· != '=') = e :: v) : e = '=' ∧ '=' ∈ line := by
  have he := List.head?_dropWhile_not (· != '=') line
  rw [h] at he
  simp only [List.head?_cons, bne_eq_false_iff_eq] at he
  subst he
  have hmem : '=' ∈ line := (List.dropWhile_suffix (· != '=')).subset (h ▸ List.mem_cons_self)
  exact ⟨rfl, hmem⟩

theorem setKey_ok_iff {c c' : Config} {key value : String} :
    (match key with
      | "python" =>
        if value.isEmpty then throw ("`python` needs a value") else pure { c with python := value }
      | "shell" =>
        if value.isEmpty then throw ("`shell` needs a value") else pure { c with shell := value }
      | "max_import_depth" =>
        match parseCount? value with
        | some n =>
          if n > 0 then pure { c with maxImportDepth := n }
          else throw ("max_import_depth must be a positive integer, got `" ++ value ++ "`")
        | none => throw ("max_import_depth must be a positive integer, got `" ++ value ++ "`")
      | "color" =>
        match ColorMode.parse? value with
        | some m => pure { c with color := m }
        | none => throw ("color must be auto, always or never, got `" ++ value ++ "`")
      | _ => throw ("unknown key `" ++ key ++ "`") : Except String Config) = .ok c' ↔
      ∃ st, Setting.of key value = some st ∧ c' = st.apply c := by
  unfold Setting.of
  split
  · by_cases hv : value.isEmpty <;>
      simp [hv, throw, throwThe, MonadExceptOf.throw, pure, Except.pure, Setting.apply, eq_comm]
  · by_cases hv : value.isEmpty <;>
      simp [hv, throw, throwThe, MonadExceptOf.throw, pure, Except.pure, Setting.apply, eq_comm]
  · cases hn : parseCount? value with
    | none => simp [throw, throwThe, MonadExceptOf.throw]
    | some n =>
      by_cases hpos : 0 < n <;>
        simp [hpos, Option.filter_some, throw, throwThe, MonadExceptOf.throw, pure, Except.pure,
          Setting.apply, eq_comm]
  · cases hm : ColorMode.parse? value with
    | none => simp [throw, throwThe, MonadExceptOf.throw]
    | some m => simp [pure, Except.pure, Setting.apply, eq_comm]
  · simp [throw, throwThe, MonadExceptOf.throw]

theorem setLine_ok_iff {c c' : Config} {line : List Char} :
    c.setLine line = .ok c' ↔ ∃ st, Setting.ofLine line = some st ∧ c' = st.apply c := by
  unfold setLine Setting.ofLine
  rw [List.span_eq_takeWhile_dropWhile]
  cases hd : line.dropWhile (· != '=') with
  | nil =>
    rw [if_pos (by simpa using not_mem_of_dropWhile_eq_nil hd)]
    simp [throw, throwThe, MonadExceptOf.throw]
  | cons e v =>
    obtain ⟨-, hc⟩ := dropWhile_eq_cons hd
    rw [if_neg (by simpa using hc)]
    simp only [List.drop_succ_cons, List.drop_zero]
    exact setKey_ok_iff

theorem setLine_of_ofLine {c : Config} {line : List Char} {st : Setting}
    (h : Setting.ofLine line = some st) : c.setLine line = .ok (st.apply c) :=
  setLine_ok_iff.2 ⟨st, h, rfl⟩

theorem setLine_error_of_ofLine {c : Config} {line : List Char}
    (h : Setting.ofLine line = none) : ∃ m, c.setLine line = .error m := by
  cases hs : c.setLine line with
  | error m => exact ⟨m, rfl⟩
  | ok c' =>
    obtain ⟨st, hst, -⟩ := setLine_ok_iff.1 hs
    simp [h] at hst

/-- The lines that hold a setting, trimmed and numbered from `n`: those neither blank nor a
comment. -/
def settingLines (n : Nat) (ls : List (List Char)) : List (List Char × Nat) :=
  ((ls.map trim).zipIdx n).filter fun p => !(p.1.isEmpty || p.1.head? == some '#')

/-- The numbers of the lines that hold a setting but no valid one. -/
def invalidLines (n : Nat) (ls : List (List Char)) : List Nat :=
  (settingLines n ls).filterMap fun p => if (Setting.ofLine p.1).isNone then some p.2 else none

/-- The valid settings of the lines, in order. -/
def validSettings (n : Nat) (ls : List (List Char)) : List Setting :=
  (settingLines n ls).filterMap fun p => Setting.ofLine p.1

theorem settingLines_cons (n : Nat) (raw : List Char) (ls : List (List Char)) :
    settingLines n (raw :: ls) =
      if (trim raw).isEmpty || (trim raw).head? == some '#' then settingLines (n + 1) ls
      else (trim raw, n) :: settingLines (n + 1) ls := by
  unfold settingLines
  rw [List.map_cons, List.zipIdx_cons, List.filter_cons]
  split <;> split <;> simp_all

theorem applyFrom_eq (c : Config) (n : Nat) (ls : List (List Char)) :
    (applyFrom c n ls).1 = (validSettings n ls).foldl (fun c st => st.apply c) c ∧
      (applyFrom c n ls).2.map ConfigError.line = invalidLines n ls := by
  induction ls generalizing c n with
  | nil => exact ⟨rfl, rfl⟩
  | cons raw ls ih =>
    simp only [validSettings, invalidLines] at ih ⊢
    rw [settingLines_cons, applyFrom]
    by_cases hskip : ((trim raw).isEmpty || (trim raw).head? == some '#') = true
    · simp only [hskip, if_true]
      exact ih c (n + 1)
    · simp only [hskip, Bool.false_eq_true, if_false]
      cases hst : Setting.ofLine (trim raw) with
      | none =>
        obtain ⟨m, hm⟩ := setLine_error_of_ofLine (c := c) hst
        simpa [hm, hst] using ih c (n + 1)
      | some st =>
        simpa [setLine_of_ofLine hst, hst] using ih (st.apply c) (n + 1)

/-- Each setting holds the value of the last line that sets it validly, or its default; the
errors are, in order and numbered from 1, exactly the lines that are neither blank nor a
comment and set nothing validly. -/
theorem load_last_valid (s : String) :
    (load s).1.python =
        (((validSettings 1 (textLines s)).filterMap Setting.python?).getLast?).getD "python3" ∧
      (load s).1.shell =
        (((validSettings 1 (textLines s)).filterMap Setting.shell?).getLast?).getD "bash" ∧
      (load s).1.maxImportDepth =
        (((validSettings 1 (textLines s)).filterMap Setting.maxImportDepth?).getLast?).getD 32 ∧
      (load s).1.color =
        (((validSettings 1 (textLines s)).filterMap Setting.color?).getLast?).getD .auto ∧
      (load s).2.map ConfigError.line = invalidLines 1 (textLines s) := by
  obtain ⟨hcfg, herr⟩ := applyFrom_eq {} 1 (textLines s)
  unfold load
  rw [hcfg]
  exact ⟨foldl_apply_field Config.python _ Setting.python_apply _ _,
    foldl_apply_field Config.shell _ Setting.shell_apply _ _,
    foldl_apply_field Config.maxImportDepth _ Setting.maxImportDepth_apply _ _,
    foldl_apply_field Config.color _ Setting.color_apply _ _, herr⟩

example : (load "bogus = 1\nmax_import_depth = zero\nno equals\npython = py\n").2.map
      ConfigError.line = [1, 2, 3] ∧
    (load "bogus = 1\nmax_import_depth = zero\nno equals\npython = py\n").1.python = "py" := by
  decide

end MixedScript.Config

import MixedScript.Text.Blank

/-!
# Settings

One `key = value` per line, blank lines and `#` comments skipped, a value in double quotes
losing them. A line that cannot be applied is reported with its number and changes nothing.
-/

namespace MixedScript

open MixedScript.Text

/-- When explanations are coloured. -/
inductive ColorMode where
  | auto
  | always
  | never
deriving DecidableEq, Repr

namespace ColorMode

/-- Reads a colour mode. -/
def parse? : String → Option ColorMode
  | "auto" => some .auto
  | "always" | "on" | "yes" | "true" => some .always
  | "never" | "off" | "no" | "false" => some .never
  | _ => none

/-- Whether to colour, given whether the output is a terminal. -/
def enabled (m : ColorMode) (tty : Bool) : Bool :=
  match m with
  | .auto => tty
  | .always => true
  | .never => false

end ColorMode

/-- The settings of a run. -/
structure Config where
  python : String := "python3"
  shell : String := "bash"
  maxImportDepth : Nat := 32
  color : ColorMode := .auto
deriving DecidableEq, Repr

/-- A line of a settings text that could not be applied. -/
structure ConfigError where
  line : Nat
  message : String
deriving DecidableEq, Repr

/-- The report of a settings error. -/
def ConfigError.display (e : ConfigError) : String :=
  "line " ++ toString e.line ++ ": " ++ e.message

namespace Config

/-- The value of an unsigned decimal number: an optional `+`, then ASCII digits, at most
2^64 - 1. -/
def parseCount? (s : String) : Option Nat :=
  let cs := s.toList
  let digits := match cs with
    | '+' :: rest => rest
    | _ => cs
  if digits.isEmpty || !digits.all Char.isDigit then none
  else
    let n := digits.foldl (fun n c => 10 * n + (c.toNat - '0'.toNat)) 0
    if n < Nat.pow 2 64 then some n else none

/-- A value without one pair of surrounding double quotes. -/
def unquote (cs : List Char) : List Char :=
  match cs with
  | '"' :: rest => if rest.getLast? == some '"' then rest.dropLast else cs
  | _ => cs

/-- Applies one `key = value` line, or says why it cannot be applied. -/
def setLine (c : Config) (line : List Char) : Except String Config :=
  if !line.contains '=' then
    throw ("expected `key = value`, got `" ++ String.ofList line ++ "`")
  else
    let key := String.ofList (trim (line.takeWhile (· != '=')))
    let value := String.ofList (unquote (trim ((line.dropWhile (· != '=')).drop 1)))
    match key with
    | "python" =>
      if value.isEmpty then throw ("`python` needs a value") else pure { c with python := value }
    | "shell" =>
      if value.isEmpty then throw ("`shell` needs a value") else pure { c with shell := value }
    | "max_import_depth" =>
      match parseCount? value with
      | some n =>
        if n > 0 then pure { c with maxImportDepth := n }
        else throw ("max_import_depth must be a positive integer, got `" ++ value ++ "`")
      | none => throw ("max_import_depth must be a positive integer, got `" ++ value ++ "`")
    | "color" =>
      match ColorMode.parse? value with
      | some m => pure { c with color := m }
      | none => throw ("color must be auto, always or never, got `" ++ value ++ "`")
    | _ => throw ("unknown key `" ++ key ++ "`")

/-- The lines of a text: split at newlines, without an empty piece after a final newline. -/
def textLines (s : String) : List (List Char) :=
  let pieces := s.toList.splitOn '\n'
  if s.toList.getLast? == some '\n' then pieces.dropLast else pieces

/-- Applies the lines of a settings text from line number `n` on. -/
def applyFrom (c : Config) : Nat → List (List Char) → Config × List ConfigError
  | _, [] => (c, [])
  | n, raw :: rest =>
    let line := trim raw
    if line.isEmpty || line.head? == some '#' then applyFrom c (n + 1) rest
    else
      match c.setLine line with
      | .ok c' => applyFrom c' (n + 1) rest
      | .error m =>
        let (c', errs) := applyFrom c (n + 1) rest
        (c', ⟨n, m⟩ :: errs)

/-- The settings of a text, over the defaults, and the lines that could not be applied. -/
def load (s : String) : Config × List ConfigError :=
  applyFrom {} 1 (textLines s)

end Config

end MixedScript

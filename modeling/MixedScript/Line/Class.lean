/-!
# Classes of lines

Each statement of a script is a comment, host-language code, a shell command, host code with
inline substitutions, or a directive that sources another script.
-/

namespace MixedScript

/-- What a statement is. -/
inductive LineClass where
  | comment
  | host
  | shell
  | blended
  | directive
deriving DecidableEq, Repr

namespace LineClass

/-- The label that the explanation shows. -/
def label : LineClass → String
  | .comment => "COMMENT"
  | .host => "PYTHON"
  | .shell => "SHELL"
  | .blended => "MIX"
  | .directive => "SOURCE"

/-- The 256-colour palette index that an explanation in colour uses. -/
def colour : LineClass → Nat
  | .comment => 8
  | .host => 10
  | .shell => 12
  | .blended => 14
  | .directive => 13

end LineClass

end MixedScript

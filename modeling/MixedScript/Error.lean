import MixedScript.Path

/-!
# Why a compile stops

A compile stops when a file cannot be found, read or written, when an inline substitution is
not closed or cannot be found on a mixed line, when scripts source each other in a cycle, or
when sourcing nests deeper than the limit. `CompileError.message` gives the text a reader sees.
-/

namespace MixedScript

/-- Why the file system refused a request. -/
inductive IoError where
  | notFound
  | notADirectory
  | isADirectory
  /-- A directory to be made already exists, as a directory or as a file. -/
  | alreadyExists
  /-- A name longer than a directory entry allows, or a path longer than a request allows. -/
  | nameTooLong
  /-- A path with a zero character, which no request can carry; refused before the file
  system is asked. -/
  | nulCharacter
deriving DecidableEq, Repr

/-- The system's text for a refusal, with its error number; a path with a zero character is
refused before any system call, so its text has no number. -/
def IoError.message : IoError → String
  | .notFound => "No such file or directory (os error 2)"
  | .notADirectory => "Not a directory (os error 20)"
  | .isADirectory => "Is a directory (os error 21)"
  | .alreadyExists => "File exists (os error 17)"
  | .nameTooLong => "File name too long (os error 36)"
  | .nulCharacter => "file name contained an unexpected NUL byte"

/-- Why a compile stops. Lines are counted from one and columns from zero. -/
inductive CompileError where
  /-- The file system refused a request about a path. -/
  | io (path : Path) (err : IoError)
  /-- An inline substitution opens on this line and is never closed. -/
  | unterminated (line column : Nat)
  /-- A mixed line has no inline substitution that can be rewritten. -/
  | missing (line : Nat)
  /-- A script sources itself through this chain of canonical paths. -/
  | cyclic (chain : List Path)
  /-- Sourcing nests deeper than the limit at this script. -/
  | depthExceeded (depth : Nat) (path : Path)
  /-- A substitution's byte range falls inside a character of the line; only spans that were
  not found by the layout can do this. -/
  | splitsCharacter
deriving DecidableEq, Repr

/-- What a reader sees. -/
def CompileError.message : CompileError → String
  | .io p e => p.text ++ ": " ++ e.message
  | .unterminated l c =>
    "line " ++ toString l ++ ": unterminated inline substitution starting at column " ++ toString c
  | .missing l => "line " ++ toString l ++ ": no inline substitution recorded for a mixed line"
  | .cyclic chain => "cyclic import: " ++ " -> ".intercalate (chain.map Path.text)
  | .depthExceeded d p =>
    "import depth limit (" ++ toString d ++ ") exceeded while sourcing " ++ p.text
  | .splitsCharacter => "byte range does not fall on character boundaries"

end MixedScript

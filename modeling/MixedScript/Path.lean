/-!
# Paths

A path is text in which `/` separates components; empty segments and `.` are skipped and `..`
names the parent. `parent?`, `fileName?`, `fileStem?`, `join` and `withFileName` follow these
rules, so `a/b/` has parent `a` and file name `b`.
-/

namespace MixedScript

/-- A path, as text. -/
structure Path where
  text : String
deriving DecidableEq, Repr, Inhabited

namespace Path

/-- What a segment of a body names. -/
inductive Component where
  | parentDir
  | normal (name : List Char)
deriving DecidableEq, Repr

/-- The component that a segment names; none for an empty segment or `.`. -/
def segmentComponent (seg : List Char) : Option Component :=
  if seg.isEmpty || seg == ['.'] then none
  else if seg == ['.', '.'] then some .parentDir
  else some (.normal seg)

/-- Whether a segment names no component. -/
def isFiller (seg : List Char) : Bool :=
  (segmentComponent seg).isNone

/-- Whether the text starts at the root. -/
def rootedChars (cs : List Char) : Bool :=
  cs.head? == some '/'

/-- Whether a relative text starts with the current directory: `.` followed by `/` or
nothing. -/
def curDirChars (cs : List Char) : Bool :=
  !rootedChars cs && (cs == ['.'] || cs.take 2 == ['.', '/'])

/-- The prefix (root or current directory) and the segments of the body. -/
def split (p : Path) : List Char × List (List Char) :=
  let cs := p.text.toList
  let n := if rootedChars cs || curDirChars cs then 1 else 0
  (cs.take n, (cs.drop n).splitOn '/')

/-- The last component of a list of segments and the segments before it. -/
def popComponent (segs : List (List Char)) : Option (Component × List (List Char)) :=
  match segs.reverse.dropWhile isFiller with
  | [] => none
  | s :: before => (segmentComponent s).map fun c => (c, before.reverse)

/-- Drops the trailing segments that name no component. -/
def trimTrailing (segs : List (List Char)) : List (List Char) :=
  (segs.reverse.dropWhile isFiller).reverse

/-- The segments joined by separators. -/
def joinSegments (segs : List (List Char)) : List Char :=
  (segs.intersperse ['/']).flatten

/-- Whether the path starts at the root. -/
def isAbsolute (p : Path) : Bool :=
  rootedChars p.text.toList

/-- The last component, when it is a name. -/
def fileName? (p : Path) : Option String :=
  match popComponent p.split.2 with
  | some (.normal n, _) => some (String.ofList n)
  | _ => none

/-- The path without its last component; none for the root and the empty path. -/
def parent? (p : Path) : Option Path :=
  let (pre, segs) := p.split
  match popComponent segs with
  | some (_, before) => some ⟨String.ofList (pre ++ joinSegments (trimTrailing before))⟩
  | none => if curDirChars p.text.toList then some ⟨""⟩ else none

/-- The file name without its extension: the text before the last dot, unless that dot is the
first character or there is none, when it is the whole name. -/
def stemOf (name : List Char) : List Char :=
  let rev := name.reverse
  if rev.contains '.' then
    let before := ((rev.dropWhile (· != '.')).drop 1).reverse
    if before.isEmpty then name else before
  else name

/-- The stem of the file name. -/
def fileStem? (p : Path) : Option String :=
  p.fileName?.map fun n => if n == ".." then n else String.ofList (stemOf n.toList)

/-- Appends a path: an absolute one replaces it; otherwise a separator is put between them
unless the path is empty or already ends with one. -/
def join (p q : Path) : Path :=
  if q.isAbsolute then q
  else if p.text.isEmpty || p.text.toList.getLast? == some '/' then ⟨p.text ++ q.text⟩
  else ⟨p.text ++ "/" ++ q.text⟩

instance : Div Path := ⟨join⟩

/-- Replaces the file name, or appends the name when the path has none. -/
def withFileName (p : Path) (name : String) : Path :=
  match p.fileName?, p.parent? with
  | some _, some dir => dir.join ⟨name⟩
  | _, _ => p.join ⟨name⟩

example : (Path.mk "a/b/").parent? = some ⟨"a"⟩ := by decide
example : (Path.mk "./x").parent? = some ⟨"."⟩ := by decide
example : (Path.mk "/").parent? = none := by decide
example : (Path.mk "x..y").fileStem? = some "x." := by decide
example : (Path.mk "/ROOT").join ⟨""⟩ = ⟨"/ROOT/"⟩ := by decide

end Path

end MixedScript

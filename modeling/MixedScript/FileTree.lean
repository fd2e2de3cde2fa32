import MixedScript.Error
import MixedScript.Text.Utf8

/-!
# A file system of directories and text files

A `FileTree` maps locations, the names from the root, to directories and text files. Paths are
resolved name by name as the system does it, with its errors: `notFound`, `notADirectory`,
`isADirectory`, `alreadyExists`, and `nameTooLong` for a name over 255 bytes or a path of
4096 bytes or more.
-/

namespace MixedScript

/-- A location: the names from the root down. -/
abbrev Location := List String

/-- What stands at a location. -/
inductive Entry where
  | dir
  | file (text : String)
deriving DecidableEq, Repr

/-- Directories and text files by location, and the working directory against which relative
paths resolve. -/
structure FileTree where
  entries : List (Location × Entry)
  cwd : Location := []
deriving Repr

namespace FileTree

/-- The tree with nothing but the root. -/
def empty : FileTree := ⟨[], []⟩

/-- What stands at a location. -/
def find? (fs : FileTree) (loc : Location) : Option Entry :=
  if loc.isEmpty then some .dir else (fs.entries.lookup loc)

/-- Puts an entry at a location, replacing what stood there. -/
def set (fs : FileTree) (loc : Location) (e : Entry) : FileTree :=
  { fs with entries := (loc, e) :: fs.entries.filter fun p => p.1 != loc }

/-- The text of a location as a path. -/
def pathOf (loc : Location) : Path :=
  ⟨"/" ++ "/".intercalate loc⟩

/-- Whether a path, after a name, needs that name to be a directory: the rest is a trailing
`/` or `/.`, or reaches a `/..`, past any empty or `.` segments. -/
def needsDirectory : List (List Char) → Bool
  | [] => false
  | [[]] => true
  | [] :: more => needsDirectory more
  | [['.']] => true
  | ['.'] :: more => needsDirectory more
  | ['.', '.'] :: _ => true
  | _ :: _ => false

/-- The longest name of a directory entry, in bytes. -/
def nameMax : Nat := 255

/-- The bound on the bytes of a path handed to the system: it must be shorter. -/
def pathMax : Nat := 4096

/-- Whether a path is too long to hand to the system. -/
def pathTooLong (text : String) : Bool :=
  text.utf8ByteSize ≥ pathMax

/-- Resolves the segments of a path from a directory, to the location it names. Each name is
tried as the path of the location reached so far with the name added, so that path must not
be too long; a name after a file is `notADirectory`, and a name too long for a directory entry
is refused before it is looked up. A name that must be a directory is checked with a `/`
added to its path. -/
def resolveFrom (fs : FileTree) : Location → List (List Char) → Except IoError Location
  | cur, [] => pure cur
  | cur, seg :: rest =>
    if seg.isEmpty || seg == ['.'] then resolveFrom fs cur rest
    else if seg == ['.', '.'] then resolveFrom fs cur.dropLast rest
    else
      let next := cur ++ [String.ofList seg]
      let nextText := (pathOf next).text
      if pathTooLong nextText then throw .nameTooLong
      else
        match fs.find? cur with
        | some (.file _) => throw .notADirectory
        | _ =>
          if Text.byteLength seg > nameMax then throw .nameTooLong
          else
            match fs.find? next with
            | none => throw .notFound
            | some e =>
              if needsDirectory rest then
                if pathTooLong (nextText ++ "/") then throw .nameTooLong
                else
                  match e with
                  | .file _ => throw .notADirectory
                  | .dir => resolveFrom fs next rest
              else resolveFrom fs next rest

/-- Where the resolution of a path starts: the root or the working directory. -/
def startOf (fs : FileTree) (p : Path) : Location :=
  if p.isAbsolute then [] else fs.cwd

/-- The canonical location of a path. -/
def canonicalize (fs : FileTree) (p : Path) : Except IoError Location :=
  if p.text.contains '\x00' then throw .nulCharacter
  else if p.text.isEmpty then throw .notFound
  else resolveFrom fs (fs.startOf p) (p.text.toList.splitOn '/')

/-- Walks the directory segments of a path; each must name a directory, and no name may be
too long for a directory entry. -/
def walkDirs (fs : FileTree) : Location → List (List Char) → Except IoError Location
  | cur, [] => pure cur
  | cur, seg :: rest =>
    if seg.isEmpty || seg == ['.'] then walkDirs fs cur rest
    else if seg == ['.', '.'] then walkDirs fs cur.dropLast rest
    else if Text.byteLength seg > nameMax then throw .nameTooLong
    else
      let next := cur ++ [String.ofList seg]
      match fs.find? next with
      | none => throw .notFound
      | some (.file _) => throw .notADirectory
      | some .dir => walkDirs fs next rest

/-- The text of a file at a canonical location. -/
def read (fs : FileTree) (loc : Location) : Except IoError String :=
  match fs.find? loc with
  | some (.file t) => pure t
  | some .dir => throw .isADirectory
  | none => throw .notFound

/-- Writes a file, creating it or replacing its text; its directory must exist. -/
def write (fs : FileTree) (p : Path) (text : String) : Except IoError FileTree := do
  if p.text.contains '\x00' then throw .nulCharacter
  if pathTooLong p.text then throw .nameTooLong
  let segs := p.text.toList.splitOn '/'
  let dir ← walkDirs fs (fs.startOf p) segs.dropLast
  let name := segs.getLastD []
  if name.isEmpty || name == ['.'] || name == ['.', '.'] then throw .isADirectory
  if Text.byteLength name > nameMax then throw .nameTooLong
  let loc := dir ++ [String.ofList name]
  match fs.find? loc with
  | some .dir => throw .isADirectory
  | _ => pure (fs.set loc (.file text))

/-- Creates a directory and the directories above it. -/
def makeDirs (fs : FileTree) (loc : Location) : FileTree :=
  (List.range loc.length).foldl (fun fs n =>
    let l := loc.take (n + 1)
    match fs.find? l with
    | some _ => fs
    | none => fs.set l .dir) fs

/-- Whether a path names a directory. -/
def isDir (fs : FileTree) (p : Path) : Bool :=
  match fs.canonicalize p with
  | .ok loc => fs.find? loc == some .dir
  | .error _ => false

/-- Makes one directory. The directories before its name must exist; trailing slashes are
allowed; a name that exists already, or is `.` or `..`, is `alreadyExists`. -/
def mkdir (fs : FileTree) (p : Path) : Except IoError FileTree := do
  if p.text.contains '\x00' then throw .nulCharacter
  if pathTooLong p.text then throw .nameTooLong
  let segs := ((p.text.toList.splitOn '/').reverse.dropWhile List.isEmpty).reverse
  match segs.getLast? with
  | none => throw (if p.text.isEmpty then .notFound else .alreadyExists)
  | some name =>
    let dir ← walkDirs fs (fs.startOf p) segs.dropLast
    if name == ['.'] || name == ['.', '.'] then throw .alreadyExists
    if Text.byteLength name > nameMax then throw .nameTooLong
    let loc := dir ++ [String.ofList name]
    match fs.find? loc with
    | some _ => throw .alreadyExists
    | none => pure (fs.set loc .dir)

/-- Makes a directory and, first, the directories above it that are missing, trying at most
`fuel` levels. A directory that exists already is accepted; a file in the way is not. The
empty path needs nothing. -/
def createDirAll (fs : FileTree) : Nat → Path → Except IoError FileTree
  | 0, _ => throw .notFound
  | fuel + 1, p =>
    if p.text.isEmpty then pure fs
    else
      match fs.mkdir p with
      | .ok fs' => pure fs'
      | .error .notFound =>
        match p.parent? with
        | none => throw .notFound
        | some q => do
          let fs' ← createDirAll fs fuel q
          match fs'.mkdir p with
          | .ok fs'' => pure fs''
          | .error e => if fs'.isDir p then pure fs' else throw e
      | .error e => if fs.isDir p then pure fs else throw e

/-- Makes a directory with the directories above it, with enough fuel for every level of its
path. -/
def makeDirAll (fs : FileTree) (p : Path) : Except IoError FileTree :=
  fs.createDirAll (p.text.length + 1) p

/-- A tree with a directory `root` that holds the given files, by relative path, and then the
given directories. Each file is written after the directories above it are made; the first
file or directory that cannot be made stops the build with its refusal. -/
def populate (root : Location) (files : List (String × String)) (dirs : List String) :
    Except IoError FileTree := do
  let top := pathOf root
  let fs := empty.makeDirs root
  let fs ← files.foldlM (fun fs (k, t) => do
    let p := top.join ⟨k⟩
    let fs ← match p.parent? with
      | some q => fs.makeDirAll q
      | none => pure fs
    fs.write p t) fs
  dirs.foldlM (fun fs d => fs.makeDirAll (top.join ⟨d⟩)) fs

/-- The files under a directory, by their path relative to it, in code-point order. -/
def filesUnder (fs : FileTree) (dir : Location) : List (String × String) :=
  let found := fs.entries.filterMap fun (loc, e) =>
    match e with
    | .file t =>
      if dir.isPrefixOf loc then some ("/".intercalate (loc.drop dir.length), t) else none
    | .dir => none
  found.mergeSort fun a b => decide (a.1 ≤ b.1)

end FileTree

end MixedScript

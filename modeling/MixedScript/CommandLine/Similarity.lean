/-!
# Jaro similarity

The Jaro similarity of two texts counts the characters they share within a window of half the
longer length, less one, and the shared characters that appear in a different order. It is
`(m / |a| + m / |b| + (m - t) / m) / 3` for `m` matches and `t` half-transpositions, 1 for two
empty texts and 0 when nothing matches. It is computed in double precision, in that order.
-/

namespace MixedScript.CommandLine

/-- Marks the first unmatched character of `b`, within `[lo, hi)`, equal to `c`. -/
def claim (c : Char) (lo hi : Nat) (b : List Char) (used : List Bool) : Option (List Bool) :=
  let idx := (List.range b.length).find? fun j =>
    lo ≤ j && j < hi && b[j]? == some c && used[j]? == some false
  idx.map fun j => used.set j true

/-- Matches the characters of `a` in order against `b`; gives the flags of both. -/
def matchFlags (a b : List Char) : List Bool × List Bool :=
  let range := (max a.length b.length / 2) - 1
  a.zipIdx.foldl (fun (fa, fb) (c, i) =>
    match claim c (i - range) (min b.length (i + range + 1)) b fb with
    | some fb' => (fa.set i true, fb')
    | none => (fa, fb)) (List.replicate a.length false, List.replicate b.length false)

/-- The matched characters of a text, in order. -/
def matched (cs : List Char) (flags : List Bool) : List Char :=
  (cs.zip flags).filterMap fun (c, f) => if f then some c else none

/-- The Jaro similarity. -/
def jaro (a b : List Char) : Float :=
  if a.isEmpty && b.isEmpty then 1.0
  else if a.isEmpty || b.isEmpty then 0.0
  else
    let (fa, fb) := matchFlags a b
    let ma := matched a fa
    let mb := matched b fb
    let m := ma.length
    if m == 0 then 0.0
    else
      let t := ((ma.zip mb).filter fun (x, y) => x != y).length / 2
      let mf := m.toFloat
      (mf / a.length.toFloat + mf / b.length.toFloat + (m - t).toFloat / mf) / 3.0

end MixedScript.CommandLine

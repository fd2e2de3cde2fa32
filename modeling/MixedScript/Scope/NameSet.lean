/-!
# Sets of names

A `NameSet` lists identifiers in code-point order without repeats. Sets only grow: the
classifier inserts names and asks whether a name is present.
-/

namespace MixedScript

/-- A finite set of identifiers, listed in code-point order without repeats. -/
structure NameSet where
  toList : List String
deriving DecidableEq, Repr

namespace NameSet

/-- Puts a name into a list sorted by code point, unless it is there already. -/
def insertSorted (x : String) : List String → List String
  | [] => [x]
  | y :: ys => if x < y then x :: y :: ys else if x = y then y :: ys else y :: insertSorted x ys

/-- The set with no names. -/
def empty : NameSet := ⟨[]⟩

instance : EmptyCollection NameSet := ⟨empty⟩

/-- Adds a name. -/
def insert (s : NameSet) (x : String) : NameSet :=
  ⟨insertSorted x s.toList⟩

/-- Whether a name is in the set. -/
def contains (s : NameSet) (x : String) : Bool :=
  s.toList.contains x

/-- The set of the names of a list. -/
def ofList (xs : List String) : NameSet :=
  xs.foldl insert empty

/-- Adds every name of another set. -/
def union (s t : NameSet) : NameSet :=
  t.toList.foldl insert s

@[simp] theorem insertSorted_nil (x : String) : insertSorted x [] = [x] := rfl

theorem mem_insertSorted (x y : String) (ys : List String) :
    y ∈ insertSorted x ys ↔ y = x ∨ y ∈ ys := by
  induction ys with
  | nil => simp
  | cons z zs ih =>
    unfold insertSorted
    split
    · simp
    · split
      · rename_i h; subst h; simp
      · simp [ih, or_left_comm]

end NameSet

end MixedScript

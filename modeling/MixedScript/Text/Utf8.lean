/-!
# Byte offsets of UTF-8 text

Offsets into a text are counted in UTF-8 bytes. `byteLength` measures a text; `indexOfByte`
finds the character that starts at a byte offset and fails when the offset falls inside a
character or past the end, which is when a byte range cannot cut the text.
-/

namespace MixedScript.Text

/-- The size of a text in UTF-8 bytes. -/
def byteLength (cs : List Char) : Nat :=
  cs.foldr (fun c n => c.utf8Size + n) 0

@[simp] theorem byteLength_nil : byteLength [] = 0 := rfl

@[simp] theorem byteLength_cons (c : Char) (cs : List Char) :
    byteLength (c :: cs) = c.utf8Size + byteLength cs := rfl

theorem byteLength_append (xs ys : List Char) :
    byteLength (xs ++ ys) = byteLength xs + byteLength ys := by
  induction xs with
  | nil => simp
  | cons x xs ih => simp [ih, Nat.add_assoc]

/-- The index of the character that starts at byte `b`, or the length when `b` is the size of
the text; `none` when `b` falls inside a character or past the end. -/
def indexOfByte : List Char → Nat → Option Nat
  | _, 0 => some 0
  | [], _ + 1 => none
  | c :: rest, b + 1 =>
    if c.utf8Size ≤ b + 1 then (indexOfByte rest (b + 1 - c.utf8Size)).map (· + 1) else none

/-- The characters between two byte offsets, or `none` when an offset does not fall between
two characters or the range is reversed. -/
def byteSlice (cs : List Char) (lo hi : Nat) : Option (List Char) := do
  let i ← indexOfByte cs lo
  let j ← indexOfByte cs hi
  if i ≤ j then some ((cs.drop i).take (j - i)) else none

/-- Replaces the characters between two byte offsets, or `none` as for `byteSlice`. -/
def byteReplace (cs : List Char) (lo hi : Nat) (r : List Char) : Option (List Char) := do
  let i ← indexOfByte cs lo
  let j ← indexOfByte cs hi
  if i ≤ j then some (cs.take i ++ r ++ cs.drop j) else none

@[simp] theorem indexOfByte_zero (cs : List Char) : indexOfByte cs 0 = some 0 := by
  cases cs <;> rfl

end MixedScript.Text

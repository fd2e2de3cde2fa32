/-!
# Blank characters

A character is blank when it has the Unicode White_Space property. Trimming, splitting into
words and the "blank line" test all use this one class.
-/

namespace MixedScript.Text

/-- The Unicode White_Space property: tab to carriage return, space, U+0085, U+00A0, U+1680,
U+2000 to U+200A, U+2028, U+2029, U+202F, U+205F and U+3000. -/
def isBlank (c : Char) : Bool :=
  let n := c.toNat
  if n < 0x80 then n == 0x20 || (0x09 ≤ n && n ≤ 0x0D)
  else n == 0x85 || n == 0xA0 || n == 0x1680 || (0x2000 ≤ n && n ≤ 0x200A) ||
    n == 0x2028 || n == 0x2029 || n == 0x202F || n == 0x205F || n == 0x3000

/-- Drops leading blanks. -/
def trimStart (cs : List Char) : List Char :=
  cs.dropWhile isBlank

/-- Drops trailing blanks. -/
def trimEnd (cs : List Char) : List Char :=
  (cs.reverse.dropWhile isBlank).reverse

/-- Drops blanks at both ends. -/
def trim (cs : List Char) : List Char :=
  trimEnd (trimStart cs)

/-- The maximal runs of characters that are not blank, left to right. -/
def words (cs : List Char) : List (List Char) :=
  (cs.splitOnP isBlank).filter fun w => !w.isEmpty

theorem words_append_blank {c : Char} (hc : isBlank c = true) (x y : List Char) :
    words (x ++ c :: y) = words x ++ words y := by
  unfold words
  rw [List.splitOnP_append_cons x y hc, List.filter_append]

@[simp] theorem trimStart_nil : trimStart [] = [] := rfl

theorem trimStart_blanks_append {u v : List Char} {x : Char} (hu : ∀ c ∈ u, isBlank c = true)
    (hx : isBlank x = false) : trimStart (u ++ x :: v) = x :: v := by
  unfold trimStart
  rw [List.dropWhile_append_of_pos hu, List.dropWhile_cons_of_neg (by simp [hx])]

@[simp] theorem isBlank_space : isBlank ' ' = true := rfl

example : isBlank '　' = true ∧ isBlank '​' = false ∧ isBlank '﻿' = false := by
  decide

end MixedScript.Text

/-
Blank characters, and trimming them off both ends of a text.

A value such as ` 10 ` is read as `10`: every reading of a value (its kind, its number, its
operator) looks at the trimmed text. Which characters count as blank is a decision of the format
and wider than ASCII, so it is a table here: the Unicode white space characters together with the
four information separators U+001C to U+001F.

Trimming is a prefix dropped and a suffix dropped, so it is written with `dropWhile` and
`reverse` alone and a proof never has to look at an index.
-/

set_option autoImplicit false

namespace FilterQuery.Text

/-! ## The characters -/

/-- The blank characters: Unicode white space and the information separators. -/
def isBlank (c : Char) : Bool :=
  let n := c.toNat
  (0x09 ≤ n && n ≤ 0x0d) || (0x1c ≤ n && n ≤ 0x20) || n == 0x85 || n == 0xa0 || n == 0x1680 ||
    (0x2000 ≤ n && n ≤ 0x200a) || n == 0x2028 || n == 0x2029 || n == 0x202f || n == 0x205f ||
    n == 0x3000

/-- The table covers the white space that the core library knows. -/
theorem isBlank_of_isWhitespace {c : Char} (h : c.isWhitespace = true) : isBlank c = true := by
  simp only [Char.isWhitespace, Bool.or_eq_true, decide_eq_true_eq] at h
  rcases h with ((rfl | rfl) | rfl) | rfl <;> decide

/-! ## Trimming -/

/-- The text without the blanks at its end. -/
def trimEnd (s : List Char) : List Char :=
  (s.reverse.dropWhile isBlank).reverse

/-- The text without the blanks at either end. -/
def trim (s : List Char) : List Char :=
  trimEnd (s.dropWhile isBlank)

@[simp] theorem trim_nil : trim [] = [] := rfl

end FilterQuery.Text

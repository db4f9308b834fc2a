/-!
# Blank characters

Two classes of white space, and trimming.  `isBlank` is the white space of Unicode.
`isSpacing` adds the four information separators; the members of lists of warning codes and what
other programs print are trimmed of these as well.
-/

namespace Colonnade.Text

/-- The white space of Unicode. -/
def isBlank (c : Char) : Bool :=
  let code := c.toNat
  (0x09 ≤ code && code ≤ 0x0D) || code == 0x20 || code == 0x85 || code == 0xA0 || code == 0x1680 ||
    (0x2000 ≤ code && code ≤ 0x200A) || code == 0x2028 || code == 0x2029 || code == 0x202F ||
    code == 0x205F || code == 0x3000

/-- White space, or one of the information separators U+001C to U+001F. -/
def isSpacing (c : Char) : Bool :=
  isBlank c || (0x1C ≤ c.toNat && c.toNat ≤ 0x1F)

theorem isBlank_of_isWhitespace {c : Char} (h : c.isWhitespace = true) : isBlank c = true := by
  simp only [Char.isWhitespace, Bool.or_eq_true, decide_eq_true_eq] at h
  rcases h with ((h | h) | h) | h <;> subst h <;> decide

/-- The text without the characters of a class at its two ends. -/
def trim (isTrimmed : Char → Bool) (text : List Char) : List Char :=
  ((text.dropWhile isTrimmed).reverse.dropWhile isTrimmed).reverse

@[simp] theorem trim_nil (isTrimmed : Char → Bool) : trim isTrimmed [] = [] := rfl

end Colonnade.Text

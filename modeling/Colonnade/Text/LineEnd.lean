/-!
# Line ends

A line ends with a line feed, a carriage return, or a carriage return and a line feed.
`unifyLineEnds` writes every one of them as one line feed.
-/

namespace Colonnade.Text

/-- The text with every line end written as one line feed. -/
def unifyLineEnds : List Char → List Char
  | [] => []
  | '\r' :: '\n' :: rest => '\n' :: unifyLineEnds rest
  | c :: rest => (if c = '\r' then '\n' else c) :: unifyLineEnds rest

/-- No carriage return is left. -/
theorem notMem_unifyLineEnds (text : List Char) : '\r' ∉ unifyLineEnds text := by
  fun_induction unifyLineEnds text with
  | case1 => simp
  | case2 rest ih => simp [ih]
  | case3 c rest _ ih =>
    by_cases h : c = '\r'
    · simp [h, ih]
    · simp [h, ih, Ne.symm h]

/-- A text without carriage returns stays as it is. -/
theorem unifyLineEnds_of_notMem {text : List Char} (h : '\r' ∉ text) :
    unifyLineEnds text = text := by
  fun_induction unifyLineEnds text with
  | case1 => rfl
  | case2 rest ih => simp at h
  | case3 c rest _ ih =>
    have hc : c ≠ '\r' := fun heq => h (heq ▸ List.mem_cons_self)
    simp [hc, ih fun hmem => h (List.mem_cons_of_mem c hmem)]

end Colonnade.Text

/-!
# Splitting text

A text falls into pieces at every separator; there is always one piece more than separators.
-/

namespace Colonnade.Text

variable {α : Type} [DecidableEq α]

/-- The pieces of a text between its separators. -/
def split (separator : α) : List α → List (List α)
  | [] => [[]]
  | c :: rest =>
    if c = separator then [] :: split separator rest
    else
      match split separator rest with
      | [] => [[c]]
      | piece :: more => (c :: piece) :: more

theorem split_ne_nil (separator : α) (text : List α) : split separator text ≠ [] := by
  cases text with
  | nil => simp [split]
  | cons c rest =>
    unfold split
    split
    · simp
    · split <;> simp

/-- A text without separators is one piece. -/
theorem split_of_notMem {separator : α} {text : List α} (h : separator ∉ text) :
    split separator text = [text] := by
  induction text with
  | nil => rfl
  | cons c rest ih =>
    have hne : c ≠ separator := fun heq => h (heq ▸ List.mem_cons_self)
    have hrest := ih fun hmem => h (List.mem_cons_of_mem c hmem)
    simp [split, hne, hrest]

/-- A separator between two texts keeps their pieces apart. -/
theorem split_append (separator : α) (a b : List α) :
    split separator (a ++ separator :: b) = split separator a ++ split separator b := by
  induction a with
  | nil => simp [split]
  | cons c rest ih =>
    by_cases h : c = separator
    · simp [split, h, ih]
    · simp only [List.cons_append, split, h, if_false, ih]
      cases hs : split separator rest with
      | nil => exact absurd hs (split_ne_nil separator rest)
      | cons piece more => simp

end Colonnade.Text

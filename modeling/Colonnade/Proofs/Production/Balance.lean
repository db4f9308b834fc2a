import Colonnade.Proofs.Production.Substitution
import Colonnade.Proofs.Turtle.Stack

/-!
# Brackets under expansion

A table is balanced if all its replacements are well-bracketed and the brackets themselves have none.
A round under such a table puts strings that come back to where they started in places between
brackets, so it changes no height (`heightFrom_derive`), and a well-bracketed string stays so through
all rounds.  A turtle that walks along it finds a saved turtle at every `]` and has none left at the
end (`expand_wellBracketed`).
-/

namespace Colonnade.Production

open Text (CodePoint Loose)
open Text.CodePoint (char)

open Turtle

namespace Table

/-- The replacements of a table are well-bracketed, and neither bracket has one. -/
structure IsBalanced (t : Table) : Prop where
  replaced : ∀ symbol replacement, t.get? symbol = some replacement →
    WellBracketed replacement
  opening : t.get? "[" = none
  closing : t.get? "]" = none

section Balanced

variable {t : Table}

theorem image_open (ht : t.IsBalanced) : t.image (.char '[') = [char '['] := by
  have hnone : t.get? [.char '['] = none := ht.opening
  rw [image, hnone]

theorem image_close (ht : t.IsBalanced) : t.image (.char ']') = [char ']'] := by
  have hnone : t.get? [.char ']'] = none := ht.closing
  rw [image, hnone]

/-- What comes of a character that is no bracket changes no height. -/
theorem heightFrom_image (ht : t.IsBalanced) {c : CodePoint} (hopen : c ≠ '[') (hclose : c ≠ ']')
    (height : Nat) : heightFrom height (t.image c) = some height := by
  unfold image
  cases hreplaced : t.get? [c] with
  | none => rw [heightFrom_cons_of_ne hopen hclose, heightFrom_nil]
  | some replacement => exact (ht.replaced _ _ hreplaced).heightFrom height

/-- A round under a balanced table keeps the heights of a string. -/
theorem heightFrom_derive (ht : t.IsBalanced) (height : Nat) (symbols : Loose) :
    heightFrom height (t.derive symbols) = heightFrom height symbols := by
  induction symbols generalizing height with
  | nil => rfl
  | cons c rest ih =>
    have hderive : t.derive (c :: rest) = t.image c ++ t.derive rest := rfl
    rw [hderive]
    by_cases hopen : c = '['
    · subst hopen
      rw [image_open ht, List.singleton_append, heightFrom_open, heightFrom_open]
      exact ih _
    · by_cases hclose : c = ']'
      · subst hclose
        rw [image_close ht, List.singleton_append]
        cases height with
        | zero => rfl
        | succ height =>
          rw [heightFrom_close_succ, heightFrom_close_succ]
          exact ih _
      · rw [heightFrom_append, heightFrom_image ht hopen hclose,
          heightFrom_cons_of_ne hopen hclose]
        exact ih height

/-- Under a balanced table a well-bracketed string stays well-bracketed through all rounds. -/
theorem wellBracketed_deriveTimes (ht : t.IsBalanced) {seed : Loose}
    (hseed : WellBracketed seed) (rounds : Nat) : WellBracketed (t.deriveTimes rounds seed) := by
  induction rounds generalizing seed with
  | zero => exact hseed
  | succ rounds ih =>
    rw [deriveTimes]
    apply ih
    rw [wellBracketed_iff, heightFrom_derive ht]
    exact wellBracketed_iff.1 hseed

end Balanced

/-- Under a balanced table, a well-bracketed string expands to a well-bracketed string in any number
of rounds.  So, whatever the angle and the length of a step, a turtle that walks along it has a turtle
saved wherever it comes to a `]`.  It reaches the end exactly if no heading at a step is infinite, and
then it has no turtle saved. -/
theorem expand_wellBracketed {t : Table} {seed : Loose} (ht : t.IsBalanced)
    (hseed : WellBracketed seed) (n : Nat) :
    ∃ symbols, t.expand seed n = .ok symbols ∧ WellBracketed symbols ∧
      ∀ angle step : Float,
        (∀ front after w, symbols = front ++ char ']' :: after →
          Walker.follow angle step {} front = .ok w → w.saved ≠ []) ∧
        (∀ w, Walker.follow angle step {} symbols = .ok w → w.saved = []) ∧
        ((∃ w, Walker.follow angle step {} symbols = .ok w) ↔
          ∀ heading ∈ headings angle {} symbols, HasDirection heading) := by
  have hexpanded := wellBracketed_deriveTimes ht hseed n
  have hheight : heightFrom ({} : Walker).saved.length (t.deriveTimes n seed) = some 0 :=
    wellBracketed_iff.1 hexpanded
  refine ⟨t.deriveTimes n seed, t.expand_natCast seed n, hexpanded, fun angle step => ⟨?_, ?_, ?_⟩⟩
  · intro front after w hsplit hfollow
    rw [hsplit] at hheight
    exact Walker.saved_ne_nil hheight hfollow
  · intro w hfollow
    exact List.length_eq_zero_iff.1 (Walker.length_saved_of_follow hheight hfollow)
  · exact Walker.exists_follow_eq_ok_iff

/-- The rules of a plant: branches with branches of their own, a symbol that is erased, and a rule for
two characters whose replacement never comes up. -/
theorem expand_wellBracketed_plant :
    let t : Table := ⟨[("X", "F[+X][-X]FX"), ("F", "FF"), ("+", ""), ("FX", "[[]]")]⟩
    t.IsBalanced ∧ WellBracketed ['X', '[', 'X', ']'] ∧
      ∃ symbols, t.expand ['X', '[', 'X', ']'] 3 = .ok symbols ∧ WellBracketed symbols ∧
        ∀ angle step : Float,
          (∀ front after w, symbols = front ++ char ']' :: after →
            Walker.follow angle step {} front = .ok w → w.saved ≠ []) ∧
          ∀ w, Walker.follow angle step {} symbols = .ok w → w.saved = [] := by
  intro t
  have ht : t.IsBalanced := by
    refine ⟨fun symbol replacement h => ?_, by decide, by decide⟩
    obtain ⟨before, after, hentries, _⟩ := List.lookup_eq_some_iff.1 h
    have hmem : (symbol, replacement) ∈ t.entries := by
      rw [hentries]
      simp
    have hall : ∀ entry ∈ t.entries, WellBracketed entry.2 := by decide
    exact hall _ hmem
  have hseed : WellBracketed ['X', '[', 'X', ']'] := by decide
  obtain ⟨symbols, hexpand, hexpanded, hwalk⟩ := expand_wellBracketed ht hseed 3
  exact ⟨ht, hseed, symbols, hexpand, hexpanded, fun angle step =>
    ⟨(hwalk angle step).1, (hwalk angle step).2.1⟩⟩

end Table

end Colonnade.Production

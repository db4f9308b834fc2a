import Colonnade.Proofs.Turtle.Bracket
import Colonnade.Proofs.Turtle.Walk

/-!
# The turtles that a walk has saved

A walk uses the turtles that it saves, and the points that it records, in a narrow way.  It only goes
back to turtles that are among the last it has saved, and it only adds points behind those it has.
The lemmas here say so, each for one symbol first and then for a whole string.

* The number of saved turtles follows the height of the string (`Walker.heightFrom_of_obey`,
  `Walker.length_saved_of_follow`), so where a string closes no bracket that it did not open, the walk
  always finds a turtle to go back to (`Walker.saved_ne_nil`).
* Turtles saved before all others make no difference to such a string (`Walker.follow_above`).
* Points recorded before make no difference to any string (`Walker.follow_after`).
-/

namespace Colonnade.Turtle

open Text (CodePoint Loose)

/-- A walker that has saved some more turtles before all others. -/
def Walker.above (w : Walker) (lost : List State) : Walker := { w with saved := w.saved ++ lost }

/-- A walker that has recorded some more points before all others. -/
def Walker.after (w : Walker) (earlier : Array Point) : Walker :=
  { w with points := earlier ++ w.points }

namespace Walker

variable {angle step : Float} {w v : Walker} {last : Nat} {symbol : CodePoint} {symbols rest : Loose}

/-! ## The number of saved turtles -/

/-- Only brackets save turtles or go back to them. -/
theorem saved_of_obey (hopen : symbol ≠ '[') (hclose : symbol ≠ ']')
    (h : w.obey angle step symbol = .ok v) : v.saved = w.saved := by
  unfold obey at h
  split at h
  · cases hforward : w.here.forward step with
    | error fault =>
      rw [hforward] at h
      cases h
    | ok there =>
      rw [hforward] at h
      cases h
      rfl
  · cases h
    rfl
  · cases h
    rfl
  · exact absurd rfl hopen
  · exact absurd rfl hclose
  · cases h
    rfl

/-- If a string does not go below the turtles that are saved, then neither does its rest below those
that are saved after its first symbol. -/
theorem heightFrom_of_obey (h : heightFrom w.saved.length (symbol :: rest) = some last)
    (hobey : w.obey angle step symbol = .ok v) : heightFrom v.saved.length rest = some last := by
  by_cases hopen : symbol = '['
  · subst hopen
    cases hobey
    exact h
  · by_cases hclose : symbol = ']'
    · subst hclose
      cases hsaved : w.saved with
      | nil =>
        rw [hsaved] at h
        cases h
      | cons top below =>
        simp only [obey, hsaved, Except.ok.injEq] at hobey
        subst hobey
        rw [hsaved] at h
        exact h
    · rw [saved_of_obey hopen hclose hobey]
      rw [heightFrom_cons_of_ne hopen hclose] at h
      exact h

/-- The number of turtles that a walk has saved at the end is the height to which the string leads. -/
theorem length_saved_of_follow (h : heightFrom w.saved.length symbols = some last)
    (hfollow : w.follow angle step symbols = .ok v) : v.saved.length = last := by
  induction symbols generalizing w with
  | nil =>
    cases hfollow
    exact Option.some.inj h
  | cons symbol rest ih =>
    rw [follow_cons] at hfollow
    obtain ⟨u, hobey, hrest⟩ := except_bind_eq_ok_iff.1 hfollow
    exact ih (heightFrom_of_obey h hobey) hrest

/-- Where a string goes on with a `]` and does not go below the turtles that were saved before it, a
turtle is saved. -/
theorem saved_ne_nil {front after : Loose}
    (h : heightFrom w.saved.length (front ++ CodePoint.char ']' :: after) = some last)
    (hfollow : w.follow angle step front = .ok v) : v.saved ≠ [] := by
  rw [heightFrom_append] at h
  obtain ⟨middle, hmiddle, hafter⟩ := Option.bind_eq_some_iff.1 h
  have hlength := length_saved_of_follow hmiddle hfollow
  intro hnone
  rw [hnone, List.length_nil] at hlength
  rw [← hlength] at hafter
  cases hafter

/-! ## Turtles saved before -/

@[simp] theorem above_nil (w : Walker) : w.above [] = w := by
  simp [above]

/-- Turtles that were saved before make no difference to a symbol, unless it goes back to one of
them. -/
theorem obey_above (h : symbol = ']' → w.saved ≠ []) (angle step : Float) (lost : List State) :
    (w.above lost).obey angle step symbol =
      (w.obey angle step symbol).map fun v => v.above lost := by
  unfold obey
  split
  · show (w.here.forward step).map _ = ((w.here.forward step).map _).map _
    cases w.here.forward step <;> rfl
  · rfl
  · rfl
  · rfl
  · cases hsaved : w.saved with
    | nil => exact absurd hsaved (h rfl)
    | cons last rest => simp [above, hsaved, Except.map]
  · rfl

/-- Turtles that were saved before make no difference to a string that does not go below those saved
after them. -/
theorem follow_above (h : heightFrom w.saved.length symbols = some last) (angle step : Float)
    (lost : List State) :
    (w.above lost).follow angle step symbols =
      (w.follow angle step symbols).map fun v => v.above lost := by
  induction symbols generalizing w with
  | nil => rfl
  | cons symbol rest ih =>
    have hpop : symbol = ']' → w.saved ≠ [] := by
      rintro rfl hnone
      rw [hnone] at h
      cases h
    rw [follow_cons, follow_cons, obey_above hpop]
    cases hobey : w.obey angle step symbol with
    | error fault => rfl
    | ok v => exact ih (heightFrom_of_obey h hobey)

/-! ## Points recorded before -/

/-- Points that were recorded before make no difference to a symbol. -/
theorem obey_after (angle step : Float) (w : Walker) (symbol : CodePoint) (earlier : Array Point) :
    (w.after earlier).obey angle step symbol =
      (w.obey angle step symbol).map fun v => v.after earlier := by
  unfold obey
  split
  · show (w.here.forward step).map _ = ((w.here.forward step).map _).map _
    cases w.here.forward step with
    | error fault => rfl
    | ok there => simp [after, Except.map, Array.push_append]
  · rfl
  · rfl
  · rfl
  · cases hsaved : w.saved with
    | nil => simp [after, hsaved, Except.map]
    | cons last rest => simp [after, hsaved, Except.map]
  · rfl

/-- Points that were recorded before make no difference to a string. -/
theorem follow_after (angle step : Float) (w : Walker) (symbols : Loose)
    (earlier : Array Point) :
    (w.after earlier).follow angle step symbols =
      (w.follow angle step symbols).map fun v => v.after earlier := by
  induction symbols generalizing w with
  | nil => rfl
  | cons symbol rest ih =>
    rw [follow_cons, follow_cons, obey_after]
    cases w.obey angle step symbol with
    | error fault => rfl
    | ok v => exact ih v

end Walker

end Colonnade.Turtle

import Colonnade.Proofs.Turtle.Stack

/-!
# Branches

A branch is a well-bracketed string between two brackets that match.  A turtle walks along it from
where it is, and then it is there again and looks where it looked before, so a branch adds its points
to a walk and changes nothing else (`Walker.follow_branch`, `walk_branch`).

The points of a stretch of a string are those that it adds to the walk, whatever came before:
`Walker.trail`.  A branch does not go below the turtle that was saved at its `[`, so its points depend
on that turtle alone.
-/

namespace Colonnade.Turtle

open Text (Loose)
open Text.CodePoint (char)

namespace Walker

variable {angle step : Float}

/-- A walker that has recorded nothing yet. -/
def afresh (w : Walker) : Walker := { w with points := #[] }

/-- The points that a walker records along a string, without those recorded before. -/
def trail (angle step : Float) (w : Walker) (symbols : Loose) :
    Except InfiniteHeading (Array Point) :=
  (w.afresh.follow angle step symbols).map points

@[simp] theorem after_afresh (w : Walker) : w.afresh.after w.points = w := by
  simp [afresh, after]

/-- A walk adds points behind those that were recorded before. -/
theorem follow_eq_after (angle step : Float) (w : Walker) (symbols : Loose) :
    w.follow angle step symbols =
      (w.afresh.follow angle step symbols).map fun v => v.after w.points := by
  rw [← follow_after, after_afresh]

/-- A branch adds the points that a turtle with nothing saved records along it, and changes nothing
else. -/
theorem follow_branch {u : Loose} (hu : WellBracketed u) (angle step : Float) (w : Walker) :
    w.follow angle step (char '[' :: (u ++ [char ']'])) =
      (trail angle step { here := w.here } u).map fun branch =>
        { w with points := w.points ++ branch } := by
  have hheight : heightFrom ({ here := w.here } : Walker).saved.length u = some 0 :=
    wellBracketed_iff.1 hu
  have hopen : w.obey angle step (.char '[') =
      .ok ((({ here := w.here } : Walker).above (w.here :: w.saved)).after w.points) := by
    simp [obey, above, after]
  rw [follow_cons, hopen]
  show (((({ here := w.here } : Walker).above _).after _).follow angle step (u ++ [char ']'])) = _
  rw [follow_append, follow_after, follow_above hheight]
  show _ = ((({ here := w.here } : Walker).follow angle step u).map points).map _
  cases hfollow : ({ here := w.here } : Walker).follow angle step u with
  | error fault => rfl
  | ok v =>
    have hlength := length_saved_of_follow hheight hfollow
    have hsaved : v.saved = [] := List.length_eq_zero_iff.1 hlength
    show ((v.above (w.here :: w.saved)).after w.points).follow angle step [.char ']'] = _
    rw [follow_cons]
    simp [obey, above, after, hsaved, follow, Except.map]

/-- A branch between two strings, as a piece of its own. -/
theorem append_branch (p u next : Loose) :
    p ++ char '[' :: (u ++ char ']' :: next) = p ++ (char '[' :: (u ++ [char ']']) ++ next) := by
  simp

/-- What comes after a branch is walked as if it came directly before, with the points of the branch
recorded in between. -/
theorem follow_append_branch {w v : Walker} {p u : Loose} {branch : Array Point}
    (hu : WellBracketed u) (hp : w.follow angle step p = .ok v)
    (hbranch : trail angle step { here := v.here } u = .ok branch) (next : Loose) :
    w.follow angle step (p ++ char '[' :: (u ++ char ']' :: next)) =
      (v.afresh.follow angle step next).map fun z => z.after (v.points ++ branch) := by
  have hthere : { v with points := v.points ++ branch } = v.afresh.after (v.points ++ branch) := by
    simp [afresh, after]
  rw [append_branch, follow_append, hp]
  show v.follow angle step (char '[' :: (u ++ [char ']']) ++ next) = _
  rw [follow_append, follow_branch hu, hbranch]
  show ({ v with points := v.points ++ branch } : Walker).follow angle step next = _
  rw [hthere, follow_after]

end Walker

/-- Whatever strings come before and after a branch, and whatever the angle and the length of a step:
a walk that succeeds records the points of the string before, then the points of a turtle that walks
along the branch from where the walk is, and then the points that the string after records when it
directly follows the string before.  Without the branch the walk records the same points but those of
the branch, and behind the branch the turtle is always in the same place, looks the same way and has
saved the same turtles. -/
theorem walk_branch {p u q : Loose} {angle step : Float} {points : Array Point}
    (hu : WellBracketed u) (h : walk (p ++ char '[' :: (u ++ char ']' :: q)) angle step = .ok points) :
    ∃ (w : Walker) (branch rest : Array Point),
      Walker.follow angle step {} p = .ok w ∧
      Walker.trail angle step { here := w.here } u = .ok branch ∧
      w.trail angle step q = .ok rest ∧
      points = w.points ++ branch ++ rest ∧
      walk (p ++ q) angle step = .ok (w.points ++ rest) ∧
      ∀ front, front <+: q → ∃ v : Walker,
        Walker.follow angle step {} (p ++ front) = .ok (v.after w.points) ∧
        Walker.follow angle step {} (p ++ char '[' :: (u ++ char ']' :: front)) =
          .ok (v.after (w.points ++ branch)) := by
  obtain ⟨z, hz, rfl⟩ := except_map_eq_ok_iff.1 h
  -- The walk reaches the end of the string before and then the end of the branch.
  have hstart := hz
  rw [Walker.append_branch, Walker.follow_append] at hstart
  obtain ⟨w, hw, hstart⟩ := except_bind_eq_ok_iff.1 hstart
  rw [Walker.follow_append, Walker.follow_branch hu] at hstart
  obtain ⟨_, hback, _⟩ := except_bind_eq_ok_iff.1 hstart
  obtain ⟨branch, hbranch, _⟩ := except_map_eq_ok_iff.1 hback
  -- From there both walks go on in the same way, behind different points.
  have hwith (next : Loose) := Walker.follow_append_branch hu hw hbranch next
  have hwithout (next : Loose) : Walker.follow angle step {} (p ++ next) =
      (w.afresh.follow angle step next).map fun v => v.after w.points := by
    rw [Walker.follow_append, hw]
    exact w.follow_eq_after angle step next
  rw [hwith] at hz
  obtain ⟨last, hlast, rfl⟩ := except_map_eq_ok_iff.1 hz
  refine ⟨w, branch, last.points, hw, hbranch, except_map_eq_ok_iff.2 ⟨last, hlast, rfl⟩, rfl,
    ?_, ?_⟩
  · rw [walk, hwithout, hlast]
    rfl
  · rintro front ⟨tail, rfl⟩
    rw [Walker.follow_append] at hlast
    obtain ⟨v, hv, _⟩ := except_bind_eq_ok_iff.1 hlast
    refine ⟨v, ?_, ?_⟩
    · rw [hwithout, hv]
      rfl
    · rw [hwith, hv]
      rfl

/-- The string before leaves a turtle saved and the string after goes back to it; in between lies a
branch with a branch of its own. -/
theorem walk_branch_nested :
    let p : Loose := ['F', '[', '-']
    let u : Loose := ['F', '[', '+', 'F', ']', 'F']
    let q : Loose := ['F', ']', 'F', ']', '+', 'F']
    WellBracketed u ∧
      ∃ points, walk (p ++ char '[' :: (u ++ char ']' :: q)) 90.0 1.0 = .ok points ∧
      ∃ (w : Walker) (branch rest : Array Point), Walker.follow 90.0 1.0 {} p = .ok w ∧
        Walker.trail 90.0 1.0 { here := w.here } u = .ok branch ∧
        w.trail 90.0 1.0 q = .ok rest ∧ points = w.points ++ branch ++ rest ∧
        walk (p ++ q) 90.0 1.0 = .ok (w.points ++ rest) ∧
        ∃ v : Walker, Walker.follow 90.0 1.0 {} (p ++ [char 'F', char ']']) = .ok (v.after w.points) ∧
          Walker.follow 90.0 1.0 {} (p ++ char '[' :: (u ++ [char ']', char 'F', char ']'])) =
            .ok (v.after (w.points ++ branch)) := by
  intro p u q
  have hu : WellBracketed u := by decide
  have hdirections : ∀ heading ∈ headings 90.0 {} (p ++ char '[' :: (u ++ char ']' :: q)),
      HasDirection heading := by decide
  obtain ⟨points, hwalk⟩ := (exists_walk_eq_ok_iff _ _ 1.0).2 hdirections
  obtain ⟨w, branch, rest, hp, hbranch, hq, hpoints, hwithout, hbehind⟩ := walk_branch hu hwalk
  exact ⟨hu, points, hwalk, w, branch, rest, hp, hbranch, hq, hpoints, hwithout,
    hbehind ['F', ']'] (by decide)⟩

end Colonnade.Turtle

import Colonnade.Proofs.Warning.Run
import Colonnade.Turtle.Walk

/-!
# Walks that reach their end

Whether a walk reaches its end does not depend on where the turtle is, but on where it looks: a step
fails if the heading is infinite, and no other symbol fails.  So the walk is compared with a simpler
machine that has headings alone, `Bearing`.  It turns, saves and goes back as the turtle does, and
`headings` lists the headings at which it would make a step.

* `Walker.obey_eq_ok_iff` says what one symbol does and when it fails.
* `exists_follow_eq_ok_iff` and `exists_walk_eq_ok_iff` say that a walk returns exactly if no heading
  at a step is infinite.
* `size_of_walk` says that a walk that returns records one point for every step.
-/

namespace Colonnade.Turtle

open Text (CodePoint Loose)

/-! ## Headings -/

/-- Where a turtle looks, and the headings that it has saved (the last one first). -/
structure Bearing where
  here : Float := 0.0
  saved : List Float := []

/-- What a symbol does to the headings. -/
def Bearing.obey (angle : Float) (b : Bearing) (symbol : CodePoint) : Bearing :=
  match symbol with
  | .char '+' => { b with here := b.here + -angle }
  | .char '-' => { b with here := b.here + angle }
  | .char '[' => { b with saved := b.here :: b.saved }
  | .char ']' =>
    match b.saved with
    | [] => b
    | last :: rest => ⟨last, rest⟩
  | _ => b

/-- The headings at the steps of a string. -/
def headings (angle : Float) : Bearing → Loose → List Float
  | _, [] => []
  | b, symbol :: rest =>
    if symbol = 'F' then b.here :: headings angle (b.obey angle symbol) rest
    else headings angle (b.obey angle symbol) rest

/-- A heading has a direction unless it is infinite as an angle. -/
def HasDirection (heading : Float) : Prop :=
  (radians heading).isInf = false

instance (heading : Float) : Decidable (HasDirection heading) :=
  inferInstanceAs (Decidable (_ = _))

/-- The headings of a turtle on its way. -/
def Walker.bearing (w : Walker) : Bearing :=
  ⟨w.here.heading, w.saved.map State.heading⟩

/-! ## One symbol -/

/-- A step returns exactly if the heading has a direction, and it keeps the heading. -/
theorem State.forward_eq_ok_iff {s t : State} {step : Float} :
    s.forward step = .ok t ↔ HasDirection s.heading ∧
      t = { s with
        x := s.x + (radians s.heading).cos * step
        y := s.y + (radians s.heading).sin * step } := by
  unfold State.forward HasDirection
  cases hinf : (radians s.heading).isInf with
  | true => simp [hinf]
  | false => simp [hinf, eq_comm]

/-- A symbol fails only if it is a step without a direction.  The headings go on as those of a
bearing, and a step is the only symbol that records a point. -/
theorem Walker.obey_eq_ok {angle step : Float} {w v : Walker} {symbol : CodePoint}
    (h : w.obey angle step symbol = .ok v) :
    (symbol = 'F' → HasDirection w.here.heading) ∧
      v.bearing = w.bearing.obey angle symbol ∧
      v.points.size = w.points.size + if symbol = 'F' then 1 else 0 := by
  unfold Walker.obey at h
  split at h
  · -- A step.
    cases hforward : w.here.forward step with
    | error fault =>
      rw [hforward] at h
      cases h
    | ok there =>
      rw [hforward] at h
      cases h
      obtain ⟨hdirection, rfl⟩ := State.forward_eq_ok_iff.1 hforward
      exact ⟨fun _ => hdirection, rfl, Array.size_push _⟩
  · cases h
    exact ⟨fun hF => absurd hF (by decide), rfl, rfl⟩
  · cases h
    exact ⟨fun hF => absurd hF (by decide), rfl, rfl⟩
  · cases h
    exact ⟨fun hF => absurd hF (by decide), rfl, rfl⟩
  · -- Going back: with nothing saved the bearing stays as well.
    split at h
    · rename_i hsaved
      cases h
      refine ⟨fun hF => absurd hF (by decide), ?_, rfl⟩
      simp [Walker.bearing, Bearing.obey, hsaved]
    · rename_i hsaved
      cases h
      refine ⟨fun hF => absurd hF (by decide), ?_, rfl⟩
      simp [Walker.bearing, Bearing.obey, hsaved]
  · rename_i hF hplus hminus hopen hclose
    cases h
    refine ⟨fun h => absurd h hF, ?_, ?_⟩
    · unfold Bearing.obey
      split <;> first | contradiction | rfl
    · rw [if_neg hF]
      rfl

theorem Walker.exists_obey_eq_ok {w : Walker} {symbol : CodePoint}
    (h : symbol = 'F' → HasDirection w.here.heading) (angle step : Float) :
    ∃ v, w.obey angle step symbol = .ok v := by
  unfold Walker.obey
  split
  · have hforward : w.here.forward step = .ok _ := State.forward_eq_ok_iff.2 ⟨h rfl, rfl⟩
    rw [hforward]
    exact ⟨_, rfl⟩
  · exact ⟨_, rfl⟩
  · exact ⟨_, rfl⟩
  · exact ⟨_, rfl⟩
  · split <;> exact ⟨_, rfl⟩
  · exact ⟨_, rfl⟩

/-! ## A whole walk -/

theorem Walker.follow_cons (angle step : Float) (w : Walker) (symbol : CodePoint) (rest : Loose) :
    w.follow angle step (symbol :: rest) =
      w.obey angle step symbol >>= fun v => v.follow angle step rest :=
  List.foldlM_cons

/-- The turtle reaches the end of a string exactly if every heading at a step has a direction. -/
theorem Walker.exists_follow_eq_ok_iff {angle step : Float} {w : Walker} {symbols : Loose} :
    (∃ v, w.follow angle step symbols = .ok v) ↔
      ∀ heading ∈ headings angle w.bearing symbols, HasDirection heading := by
  -- The walker is generalized: what ties it to the headings is its bearing, which goes on with it.
  induction symbols generalizing w with
  | nil => exact ⟨fun _ _ h => absurd h List.not_mem_nil, fun _ => ⟨w, rfl⟩⟩
  | cons symbol rest ih =>
    have hheadings : (∀ heading ∈ headings angle w.bearing (symbol :: rest), HasDirection heading) ↔
        (symbol = 'F' → HasDirection w.here.heading) ∧
          ∀ heading ∈ headings angle (w.bearing.obey angle symbol) rest, HasDirection heading := by
      rw [headings]
      by_cases hF : symbol = 'F'
      · simp [hF, Walker.bearing]
      · simp [hF]
    rw [follow_cons, hheadings]
    constructor
    · rintro ⟨v, h⟩
      obtain ⟨u, hu, hrest⟩ := except_bind_eq_ok_iff.1 h
      obtain ⟨hdirection, hbearing, _⟩ := obey_eq_ok hu
      refine ⟨hdirection, ?_⟩
      rw [← hbearing]
      exact ih.1 ⟨v, hrest⟩
    · rintro ⟨hdirection, hrest⟩
      obtain ⟨u, hu⟩ := exists_obey_eq_ok hdirection angle step
      rw [← (obey_eq_ok hu).2.1] at hrest
      obtain ⟨v, hv⟩ := ih.2 hrest
      exact ⟨v, except_bind_eq_ok_iff.2 ⟨u, hu, hv⟩⟩

/-- On the way to the end of a string a point is recorded for every step of it. -/
theorem Walker.size_of_follow {angle step : Float} {w v : Walker} {symbols : Loose}
    (h : w.follow angle step symbols = .ok v) :
    v.points.size = w.points.size + symbols.count (.char 'F') := by
  induction symbols generalizing w with
  | nil =>
    cases h
    rfl
  | cons symbol rest ih =>
    rw [follow_cons] at h
    obtain ⟨u, hu, hrest⟩ := except_bind_eq_ok_iff.1 h
    obtain ⟨_, _, hsize⟩ := obey_eq_ok hu
    rw [ih hrest, hsize, List.count_cons]
    by_cases hF : symbol = 'F'
    · simp [hF]
      omega
    · simp [hF]

theorem exists_walk_eq_ok_iff (symbols : Loose) (angle step : Float) :
    (∃ points, walk symbols angle step = .ok points) ↔
      ∀ heading ∈ headings angle {} symbols, HasDirection heading := by
  have hfollow : (∃ v, Walker.follow angle step {} symbols = .ok v) ↔
      ∀ heading ∈ headings angle {} symbols, HasDirection heading :=
    Walker.exists_follow_eq_ok_iff
  rw [← hfollow]
  constructor
  · rintro ⟨points, h⟩
    obtain ⟨v, hv, _⟩ := except_map_eq_ok_iff.1 h
    exact ⟨v, hv⟩
  · rintro ⟨v, hv⟩
    exact ⟨v.points, except_map_eq_ok_iff.2 ⟨v, hv, rfl⟩⟩

/-- A walk records a point for every step. -/
theorem size_of_walk {symbols : Loose} {angle step : Float} {points : Array Point}
    (h : walk symbols angle step = .ok points) : points.size = symbols.count (.char 'F') := by
  obtain ⟨v, hv, rfl⟩ := except_map_eq_ok_iff.1 h
  simpa using Walker.size_of_follow hv

end Colonnade.Turtle

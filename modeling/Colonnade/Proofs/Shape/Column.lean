import Colonnade.Proofs.Mesh.Coverage

/-!
# Columns that can be built

The points of a ring fail for two reasons only: an integer that is too large for a float, and an
angle that becomes infinite when it is multiplied with the number of flutes.  Both are seen in
`swing?`, the angle that the radius swings with, and neither has to do with the radius, the depth or
the height.  After that only the number of vertices is left to fail (`exists_build_eq_ok_iff`).
-/

namespace Colonnade.Column

variable {d : Dimensions} {m : Mesh}

/-- The angle with which the radius swings at vertex `i` of a ring.  There is none if a number is
too large for a float. -/
def swing? (segments flutes : Int) (i : Nat) : Option Float := do
  let around ← Number.floatOfInt? segments
  let times ← Number.floatOfInt? flutes
  some (2.0 * Turtle.pi * Float.ofNat i / around * times)

/-- A ring has a point exactly where its radius swings with an angle that is not infinite. -/
theorem exists_ringPoint_eq_ok_iff {i : Nat} :
    (∃ q, ringPoint d i = .ok q) ↔
      ∃ swing, swing? d.segments d.flutes i = some swing ∧ swing.isInf = false := by
  unfold ringPoint swing? toFloat
  cases hsegments : Number.floatOfInt? d.segments with
  | none =>
    constructor
    · rintro ⟨q, h⟩
      cases h
    · rintro ⟨swing, h, _⟩
      cases h
  | some around =>
    cases hflutes : Number.floatOfInt? d.flutes with
    | none =>
      constructor
      · rintro ⟨q, h⟩
        cases h
      · rintro ⟨swing, h, _⟩
        cases h
    | some times =>
      show (∃ q, (if (2.0 * Turtle.pi * Float.ofNat i / around * times).isInf then _ else _) =
        Except.ok q) ↔ ∃ swing : Float, some _ = some swing ∧ swing.isInf = false
      cases hinf : (2.0 * Turtle.pi * Float.ofNat i / around * times).isInf with
      | true => simp [hinf]
      | false => simp [hinf]

/-- A column that can be built is the mesh over its ring, with corners that fit into words. -/
theorem build_eq_ok_iff : build d = .ok m ↔
    3 ≤ d.segments ∧ ∃ ring,
      List.Forall₂ (fun i q => ringPoint d i = .ok q) (List.range (d.segments.toNat + 1)) ring ∧
        mesh ring d.height d.segments.toNat = m ∧ m.wideCorner? = none := by
  rw [build]
  split
  · rename_i hfew
    constructor
    · intro h
      cases h
    · rintro ⟨henough, _⟩
      omega
  · rename_i henough
    rw [List.range_succ_eq_map]
    constructor
    · intro h
      obtain ⟨first, hfirst, h⟩ := except_bind_eq_ok_iff.1 h
      obtain ⟨others, hothers, h⟩ := except_bind_eq_ok_iff.1 h
      obtain ⟨hmesh, hwords⟩ := Mesh.stored_eq_ok_iff.1 (mapError_eq_ok_iff.1 h)
      refine ⟨by omega, first :: others, .cons hfirst ?_, hmesh, hmesh ▸ hwords⟩
      exact List.forall₂_map_left_iff.2 (forall₂_of_mapM hothers)
    · rintro ⟨_, ring, hring, hmesh, hwords⟩
      cases hring with
      | @cons _ first _ others hfirst hothers =>
        refine except_bind_eq_ok_iff.2 ⟨first, hfirst, ?_⟩
        refine except_bind_eq_ok_iff.2
          ⟨others, mapM_eq_ok_iff.2 (List.forall₂_map_left_iff.1 hothers), ?_⟩
        exact mapError_eq_ok_iff.2 (Mesh.stored_eq_ok_iff.2 ⟨hmesh, hmesh ▸ hwords⟩)

theorem length_of_ringPoints {n : Nat} {ring : List Point}
    (h : List.Forall₂ (fun i q => ringPoint d i = .ok q) (List.range n) ring) : ring.length = n := by
  rw [← h.length_eq, List.length_range]

/-- The corners of a column fit into words exactly if there are no more vertices than words. -/
theorem wideCorner?_mesh_eq_none_iff {ring : List Point} {n : Nat} (hn : 0 < n)
    (hring : ring.length = n + 1) (height : Float) :
    (mesh ring height n).wideCorner? = none ↔ 2 * (n + 1) ≤ 2 ^ 32 := by
  rw [Mesh.wideCorner?_eq_none_iff (isCovered_mesh hn hring height), vertexCount_mesh, hring]

theorem words_of_build (h : build d = .ok m) : m.vertexCount ≤ 2 ^ 32 := by
  obtain ⟨henough, ring, hring, rfl, hwords⟩ := build_eq_ok_iff.1 h
  have hlength := length_of_ringPoints hring
  rw [vertexCount_mesh, hlength]
  exact (wideCorner?_mesh_eq_none_iff (by omega) hlength d.height).1 hwords

/-- A column of three or more segments can be built exactly if its radius swings with angles that
are not infinite, all around, and its vertices can be numbered by words. -/
theorem exists_build_eq_ok_iff (hsegments : 3 ≤ d.segments) :
    (∃ m, build d = .ok m) ↔
      (∀ i ≤ d.segments.toNat, ∃ swing,
        swing? d.segments d.flutes i = some swing ∧ swing.isInf = false) ∧
      2 * (d.segments.toNat + 1) ≤ 2 ^ 32 := by
  have hpos : 0 < d.segments.toNat := by omega
  constructor
  · rintro ⟨m, h⟩
    obtain ⟨_, ring, hring, rfl, hwords⟩ := build_eq_ok_iff.1 h
    have hlength := length_of_ringPoints hring
    refine ⟨fun i hi => ?_, (wideCorner?_mesh_eq_none_iff hpos hlength d.height).1 hwords⟩
    have hmem : i ∈ List.range (d.segments.toNat + 1) := List.mem_range.2 (by omega)
    exact exists_ringPoint_eq_ok_iff.1 (exists_forall₂_iff.1 ⟨ring, hring⟩ i hmem)
  · rintro ⟨hswings, hwords⟩
    obtain ⟨ring, hring⟩ : ∃ ring, List.Forall₂ (fun i q => ringPoint d i = .ok q)
        (List.range (d.segments.toNat + 1)) ring := by
      refine exists_forall₂_iff.2 fun i hi => ?_
      have hlt := List.mem_range.1 hi
      exact exists_ringPoint_eq_ok_iff.2 (hswings i (by omega))
    have hlength := length_of_ringPoints hring
    exact ⟨_, build_eq_ok_iff.2 ⟨hsegments, ring, hring, rfl,
      (wideCorner?_mesh_eq_none_iff hpos hlength d.height).2 hwords⟩⟩

/-! ## Faults -/

/-- Whether a fault comes from a number that is too large: an integer without a float, an infinite
angle, or a vertex without a word. -/
def Fault.isOverflow : Fault → Bool
  | .integerTooLarge => true
  | .infiniteAngle => true
  | .wideCorner _ => true
  | _ => false

theorem isOverflow_of_toFloat {n : Int} {fault : Fault} (h : toFloat n = .error fault) :
    fault.isOverflow = true := by
  rw [toFloat] at h
  split at h
  · cases h
  · cases h
    rfl

theorem isOverflow_of_ringPoint {i : Nat} {fault : Fault} (h : ringPoint d i = .error fault) :
    fault.isOverflow = true := by
  rw [ringPoint] at h
  rcases except_bind_eq_error_iff.1 h with h | ⟨around, _, h⟩
  · exact isOverflow_of_toFloat h
  · rcases except_bind_eq_error_iff.1 h with h | ⟨times, _, h⟩
    · exact isOverflow_of_toFloat h
    · dsimp only at h
      split at h
      · cases h
        rfl
      · cases h

/-- A column of three or more segments fails only by a number that is too large. -/
theorem isOverflow_of_build (hsegments : 3 ≤ d.segments) {fault : Fault}
    (h : build d = .error fault) : fault.isOverflow = true := by
  rw [build, if_neg (by omega)] at h
  rcases except_bind_eq_error_iff.1 h with h | ⟨first, _, h⟩
  · exact isOverflow_of_ringPoint h
  · rcases except_bind_eq_error_iff.1 h with h | ⟨others, _, h⟩
    · obtain ⟨i, _, hi⟩ := exists_of_mapM_eq_error h
      exact isOverflow_of_ringPoint hi
    · obtain ⟨cause, _, rfl⟩ := mapError_eq_error_iff.1 h
      rfl

/-- A number of flutes that has no float keeps every column from being built. -/
theorem build_eq_error_of_flutes (hsegments : 3 ≤ d.segments) {around : Float}
    (haround : Number.floatOfInt? d.segments = some around)
    (hflutes : Number.floatOfInt? d.flutes = none) : build d = .error .integerTooLarge := by
  have hfirst : ringPoint d 0 = .error .integerTooLarge := by
    rw [ringPoint, toFloat, haround, toFloat, hflutes]
    rfl
  rw [build, if_neg (by omega)]
  exact except_bind_eq_error_iff.2 (.inl hfirst)

end Colonnade.Column

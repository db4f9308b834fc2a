import Colonnade.Number.Nearest

/-!
# Signs of finite floats

Comparing a float that is not a number is false either way, so a float that is not at most zero need
not be above it.  For finite floats it is.
-/

namespace Colonnade.Number

open Float.Model

/-- A finite float is compared with zero by its sign. -/
theorem compare_zero_of_isFinite {x : UnpackedFloat} (h : x.isFinite)
    (sign : UnpackedFloat.Sign) :
    ∃ o, x.compare (.zero sign) = some o ∧ UnpackedFloat.compare (.zero sign) x = some o.swap := by
  cases x with
  | infinity own => cases h
  | notANumber => cases h
  | zero own => exact ⟨.eq, rfl, rfl⟩
  | finite own mantissa exponent pos =>
    cases own with
    | positive => exact ⟨.gt, rfl, rfl⟩
    | negative => exact ⟨.lt, rfl, rfl⟩

theorem unpack_zero : (0.0 : Float).toModel.unpack = .zero .positive := by rfl

theorem float_le_iff {x y : Float} : x ≤ y ↔ x.toModel.unpack.le y.toModel.unpack = true :=
  decide_eq_true_iff

theorem float_lt_iff {x y : Float} : x < y ↔ x.toModel.unpack.lt y.toModel.unpack = true :=
  decide_eq_true_iff

/-- A finite float that is not at most zero is above it. -/
theorem not_le_zero_iff {x : Float} (h : x.isFinite) : ¬ x ≤ 0.0 ↔ 0.0 < x := by
  obtain ⟨o, hthere, hback⟩ := compare_zero_of_isFinite h .positive
  rw [float_le_iff, float_lt_iff, unpack_zero, UnpackedFloat.le, UnpackedFloat.lt, hthere, hback]
  cases o <;> decide

/-- A finite float that is not below zero is at least zero. -/
theorem not_lt_zero_iff {x : Float} (h : x.isFinite) : ¬ x < 0.0 ↔ 0.0 ≤ x := by
  obtain ⟨o, hthere, hback⟩ := compare_zero_of_isFinite h .positive
  rw [float_le_iff, float_lt_iff, unpack_zero, UnpackedFloat.le, UnpackedFloat.lt, hthere, hback]
  cases o <;> decide

end Colonnade.Number

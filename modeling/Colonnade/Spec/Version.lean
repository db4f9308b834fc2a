import Colonnade.Number.Integer
import Colonnade.Text.Split

/-!
# Specification versions

A version is two integers with a point between them.  Documents with a version after the latest
supported one are refused.
-/

namespace Colonnade

/-- A version by its two numbers. -/
structure Version where
  major : Int
  minor : Int
  deriving DecidableEq, Repr

namespace Version

/-- The latest supported version. -/
def latest : Version := ⟨0, 2⟩

/-- The version a specification counts as when its own cannot be read. -/
def earliest : Version := ⟨0, 1⟩

/-- Whether a version comes before another. -/
def before (a b : Version) : Bool :=
  a.major < b.major || (a.major == b.major && a.minor < b.minor)

/-- The version that a text writes. -/
def ofText? (text : Text.Loose) : Option Version :=
  match Text.split (.char '.') text with
  | [major, minor] =>
    match Number.readLooseInteger 10 major, Number.readLooseInteger 10 minor with
    | .ok major, .ok minor => some ⟨major, minor⟩
    | _, _ => none
  | _ => none

/-- The version that a text writes, or the earliest one. -/
def ofTextOrEarliest (text : Text.Loose) : Version :=
  (ofText? text).getD earliest

/-- Why a version is refused. -/
inductive Fault where
  | format (version : Text.Loose)
  | unsupported (version : Text.Loose)
  deriving DecidableEq, Repr

/-- The wording of a version fault. -/
def Fault.message : Fault → String
  | .format version => "Invalid version format: " ++ version.quoted
  | .unsupported version =>
    "Unsupported version: " ++ version.quoted ++ " (latest supported is " ++
      toString latest.major ++ "." ++ toString latest.minor ++ ")"

/-- Accepts the text of a supported version. -/
def check (text : Text.Loose) : Except Fault Unit :=
  match ofText? text with
  | none => .error (.format text)
  | some version => if latest.before version then .error (.unsupported text) else .ok ()

/-- A text is accepted exactly when it writes a version not after the latest. -/
theorem check_eq_ok_iff (text : Text.Loose) :
    check text = .ok () ↔ ∃ v, ofText? text = some v ∧ latest.before v = false := by
  unfold check
  cases ofText? text with
  | none => simp
  | some v => cases h : latest.before v <;> simp [h]

end Version

end Colonnade

import Colonnade.Document.Value

/-!
# Schema problems

Reading typed data out of a document finds problems.  A problem has a path, which leads from the
outermost value to the place of the problem, and a cause.  `Checked` collects all problems of the
parts of a value: a value comes out only if no part has a problem.
-/

namespace Colonnade.Schema

/-- One step of a path: a field of a map or a position in a list. -/
inductive Place where
  | field (name : String)
  | item (position : Int)
  deriving DecidableEq, Repr

/-- What is wrong at a place. -/
inductive Cause where
  | missing
  | unknownField
  | keyNotText
  | notText
  | notUnicode
  | notFloat
  | floatText
  | notInteger
  | integerText
  | integerSize
  | fraction
  | notFinite
  | notOneOf (options : List String)
  | notList
  | notTuple
  | tooLong (limit count : Nat)
  | notModel (name : String)
  | foreignField (form field : String)
  deriving DecidableEq, Repr

namespace Cause

/-- The short name of a cause. -/
def name : Cause → String
  | .missing => "missing"
  | .unknownField => "extra_forbidden"
  | .keyNotText => "invalid_key"
  | .notText => "string_type"
  | .notUnicode => "string_unicode"
  | .notFloat => "float_type"
  | .floatText => "float_parsing"
  | .notInteger => "int_type"
  | .integerText => "int_parsing"
  | .integerSize => "int_parsing_size"
  | .fraction => "int_from_float"
  | .notFinite => "finite_number"
  | .notOneOf _ => "literal_error"
  | .notList => "list_type"
  | .notTuple => "tuple_type"
  | .tooLong _ _ => "too_long"
  | .notModel _ => "model_type"
  | .foreignField _ _ => "value_error"

/-- Choices in quotes, with a word before the last one. -/
def choices : List String → String
  | [] => ""
  | [option] => Text.quoted option
  | [first, last] => Text.quoted first ++ " or " ++ Text.quoted last
  | option :: rest => Text.quoted option ++ ", " ++ choices rest

/-- The wording of a cause. -/
def message : Cause → String
  | .missing => "Field required"
  | .unknownField => "Extra inputs are not permitted"
  | .keyNotText => "Keys should be strings"
  | .notText => "Input should be a valid string"
  | .notUnicode =>
    "Input should be a valid string, unable to parse raw data as a unicode string"
  | .notFloat => "Input should be a valid number"
  | .floatText => "Input should be a valid number, unable to parse string as a number"
  | .notInteger => "Input should be a valid integer"
  | .integerText => "Input should be a valid integer, unable to parse string as an integer"
  | .integerSize => "Unable to parse input string as an integer, exceeded maximum size"
  | .fraction => "Input should be a valid integer, got a number with a fractional part"
  | .notFinite => "Input should be a finite number"
  | .notOneOf options => "Input should be " ++ choices options
  | .notList => "Input should be a valid list"
  | .notTuple => "Input should be a valid tuple"
  | .tooLong limit count =>
    "Tuple should have at most " ++ toString limit ++ " items after validation, not " ++
      toString count
  | .notModel name => "Input should be a valid dictionary or instance of " ++ name
  | .foreignField form field =>
    "Value error, " ++ Text.quoted form ++ " pillar must not have " ++ Text.quoted field

end Cause

/-- A problem of a document. -/
structure Problem where
  path : List Place
  cause : Cause
  deriving DecidableEq, Repr

/-- A value, or every problem that keeps it from being one. -/
def Checked (α : Type) : Type := Except (List Problem) α

namespace Checked

variable {α β : Type}

/-- A single problem right here. -/
def fail (cause : Cause) : Checked α := Except.error [⟨[], cause⟩]

/-- The same result, seen from one step further out. -/
def inside (place : Place) : Checked α → Checked α
  | .ok value => .ok value
  | .error problems =>
    .error (problems.map fun problem => { problem with path := place :: problem.path })

/-- Applies a checked function to a checked value, with the problems of both. -/
protected def apply (f : Checked (α → β)) (a : Checked α) : Checked β :=
  match f, a with
  | .ok f, .ok a => .ok (f a)
  | .ok _, .error problems => .error problems
  | .error problems, .ok _ => .error problems
  | .error problems, .error more => .error (problems ++ more)

instance : Applicative Checked where
  pure value := .ok value
  seq f a := Checked.apply f (a ())

/-- Goes on with a value that has no problems. -/
def andThen (a : Checked α) (next : α → Checked β) : Checked β :=
  match a with
  | .ok value => next value
  | .error problems => .error problems

/-- All values of a list, or the problems of all of them. -/
def all : List (Checked α) → Checked (List α)
  | [] => pure []
  | a :: rest => (· :: ·) <$> a <*> all rest

/-- Two checks both succeed exactly when each does. -/
theorem apply_eq_ok_iff (f : Checked (α → β)) (a : Checked α) (b : β) :
    Checked.apply f a = .ok b ↔ ∃ g x, f = .ok g ∧ a = .ok x ∧ g x = b := by
  constructor
  · intro h
    match f, a, h with
    | .ok g, .ok x, h => exact ⟨g, x, rfl, rfl, Except.ok.inj h⟩
  · rintro ⟨g, x, rfl, rfl, rfl⟩
    rfl

end Checked

end Colonnade.Schema

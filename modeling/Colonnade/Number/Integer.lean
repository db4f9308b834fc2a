import Colonnade.Number.Power
import Colonnade.Text.Blank
import Colonnade.Text.Digit
import Colonnade.Text.Loose

/-!
# Reading integers

An integer in text may be surrounded by white space and may have one sign.  Its digits are the
decimal digits of any script, and a single underscore may stand between two of them.  In the
bases two, eight and sixteen the digits may follow a mark such as `0x`.  In base ten there is a
limit to the number of digits, for writing as well as for reading.
-/

namespace Colonnade.Number

/-- The value of a digit below a base. -/
def digitBelow? (base : Nat) (c : Char) : Option Nat :=
  (Text.baseDigitValue? c).filter (· < base)

/-- The value of the digits at the start of a text, with single underscores between them, how many
digits there are, and what follows them.  The flag says that a digit stands right before. -/
def digitsFrom (base : Nat) : Bool → Nat → Nat → List Char → Option (Nat × Nat × List Char)
  | afterDigit, value, count, [] => if afterDigit then some (value, count, []) else none
  | afterDigit, value, count, c :: rest =>
    if c = '_' then
      if afterDigit then digitsFrom base false value count rest else none
    else
      match digitBelow? base c with
      | some digit => digitsFrom base true (value * base + digit) (count + 1) rest
      | none => if afterDigit then some (value, count, c :: rest) else none

/-- The value and number of the digits at the start of a text, and what follows them. -/
def digits? (base : Nat) (text : List Char) : Option (Nat × Nat × List Char) :=
  digitsFrom base false 0 0 text

/-- A text without one leading sign, and whether that sign was a minus. -/
def splitSign : List Char → Bool × List Char
  | '-' :: rest => (true, rest)
  | '+' :: rest => (false, rest)
  | text => (false, text)

/-- The mark that may stand before digits of a base. -/
def baseMark? : Nat → Option Char
  | 2 => some 'b'
  | 8 => some 'o'
  | 16 => some 'x'
  | _ => none

/-- Digits without their mark; an underscore may follow the mark. -/
def dropMark (base : Nat) (text : List Char) : List Char :=
  match baseMark? base, text with
  | some mark, '0' :: c :: rest =>
    if c.toLower = mark then
      match rest with
      | '_' :: rest => rest
      | rest => rest
    else text
  | _, _ => text

/-- Why a text is not read as an integer, or an integer not written as a text. -/
inductive IntegerFault where
  | notANumber (base : Nat) (text : Text.Loose)
  | tooManyDigits (count : Nat)
  | tooLarge
  deriving DecidableEq, Repr

/-- More decimal digits than this are refused. -/
def digitLimit : Nat := 4300

/-- Whether an integer has more decimal digits than the limit allows. -/
def isTooLarge (n : Int) : Bool := tenTo digitLimit ≤ n.natAbs

/-- A number with no more digits than the limit allows can be written. -/
theorem isTooLarge_of_lt {n : Int} (digits : Nat) (hdigits : digits ≤ digitLimit)
    (h : n.natAbs < tenTo digits) : isTooLarge n = false := by
  have hlimit := tenTo_le_tenTo hdigits
  exact decide_eq_false (by omega)

theorem isTooLarge_of_le {n : Int} (digits : Nat) (hdigits : digitLimit ≤ digits)
    (h : tenTo digits ≤ n.natAbs) : isTooLarge n = true :=
  decide_eq_true (Nat.le_trans (tenTo_le_tenTo hdigits) h)

/-- The wording of an integer fault. -/
def IntegerFault.message : IntegerFault → String
  | .notANumber base text =>
    "invalid literal for int() with base " ++ toString base ++ ": " ++
      String.ofList (text.quoted.toList.take 200)
  | .tooManyDigits count =>
    "Exceeds the limit (4300 digits) for integer string conversion: value has " ++ toString count ++
      " digits; use sys.set_int_max_str_digits() to increase the limit"
  | .tooLarge =>
    "Exceeds the limit (4300 digits) for integer string conversion; " ++
      "use sys.set_int_max_str_digits() to increase the limit"

/-- An integer in a base, read from the characters of a text that faults show as `written`. -/
def readWritten (base : Nat) (written : Text.Loose) (text : List Char) :
    Except IntegerFault Int :=
  let (negative, unsigned) := splitSign (Text.trim Text.isBlank text)
  match digits? base (dropMark base unsigned) with
  | none => .error (.notANumber base written)
  | some (value, count, rest) =>
    if (baseMark? base).isNone && digitLimit < count then .error (.tooManyDigits count)
    else if rest.isEmpty then .ok (if negative then -value else value)
    else .error (.notANumber base written)

/-- An integer in a base. -/
def readInteger (base : Nat) (text : List Char) : Except IntegerFault Int :=
  readWritten base (.ofChars text) text

/-- An integer in a base, given as a loose text; a surrogate is no digit. -/
def readLooseInteger (base : Nat) (text : Text.Loose) : Except IntegerFault Int :=
  readWritten base text (text.charsOr '?')

end Colonnade.Number

import Colonnade.Number.Decimal

/-!
# Integers in text fields

A text field may stand for an integer.  A plain spelling is read as it is: a minus perhaps, then
digits without a leading zero.  Any other spelling is first made plain: white space around it, a
plus, leading zeros, a tail of zeros after a point and single underscores are left out.  Of both
the length is limited.
-/

namespace Colonnade.Schema.IntegerText

/-- What a text is as an integer. -/
inductive Outcome where
  | value (n : Int)
  | tooLong
  | malformed
  deriving DecidableEq, Repr

/-- Longer spellings, with their sign, are not read. -/
def lengthLimit : Nat := 4300

/-- The minus at the start of a text, and the rest. -/
def splitMinus : List Char → Bool × List Char
  | '-' :: rest => (true, rest)
  | text => (false, text)

/-- The integer of a plain spelling. -/
def ofPlain (text : List Char) : Outcome :=
  let (negative, rest) := splitMinus text
  let digits := rest.takeWhile Char.isDigit
  if digits.isEmpty || (digits.head? = some '0' && rest ≠ ['0']) then .malformed
  else if lengthLimit < digits.length + (text.length - rest.length) then .tooLong
  else if digits.length < rest.length then .malformed
  else
    let value : Int := Number.asciiValue digits
    .value (if negative then -value else value)

/-- A text without the zeros and underscores that come first.  `last` is the one right before.
Before a point the last one stays, and so it does at the end. -/
def afterZeros? (last : Char) : List Char → Option (List Char)
  | [] => some [last]
  | c :: rest =>
    if c = '0' ∨ c = '_' then afterZeros? c rest
    else if c.isDigit ∨ c = '-' then some (c :: rest)
    else if c = '.' then some (last :: c :: rest)
    else none

/-- A text that starts with a digit, without leading zeros. -/
def withoutZeros? : List Char → Option (List Char)
  | [] => none
  | c :: rest =>
    if c = '0' then afterZeros? c rest else if c.isDigit then some (c :: rest) else none

/-- A text without a point that only zeros follow. -/
def withoutTail (text : List Char) : List Char :=
  let tail := text.dropWhile (· ≠ '.')
  if 2 ≤ tail.length && (tail.drop 1).all (· = '0') then text.takeWhile (· ≠ '.') else text

/-- A text without its underscores, if none is at an end and no two are neighbours. -/
def withoutUnderscores? (text : List Char) : Option (List Char) :=
  let doubled := (text.zip (text.drop 1)).any fun (a, b) => a = '_' ∧ b = '_'
  if text.head? = some '_' ∨ text.getLast? = some '_' ∨ doubled then none
  else some (text.filter (· ≠ '_'))

/-- A text without one plus at its start, which no minus may follow. -/
def withoutPlus? : List Char → Option (List Char)
  | '+' :: '-' :: _ => none
  | '+' :: rest => some rest
  | text => some text

/-- The plain spelling that a text stands for. -/
def plain? (text : List Char) : Option (List Char) := do
  let text ← withoutPlus? (Text.trim Text.isBlank text)
  let (negative, rest) := splitMinus text
  let rest := withoutTail (← withoutZeros? rest)
  let digits := (withoutUnderscores? rest).getD rest
  pure (if negative then '-' :: digits else digits)

/-- The integer of a text. -/
def read (text : List Char) : Outcome :=
  match ofPlain (Text.trim Text.isBlank text) with
  | .malformed => ((plain? text).map ofPlain).getD .malformed
  | outcome => outcome

/-- A plain spelling is read as it is. -/
theorem read_of_plain {text : List Char} {n : Int}
    (h : ofPlain (Text.trim Text.isBlank text) = .value n) : read text = .value n := by
  simp [read, h]

end Colonnade.Schema.IntegerText

import Colonnade.Text.Loose

/-!
# Terminal sequences

A terminal takes an escape character, a bracket and some numbers before a letter for an order.
Output that does not go to a terminal is printed without such sequences.  It is stored as it is
printed, so a text with surrogates cannot be.
-/

namespace Colonnade.Text

/-- Whether a character may stand between the bracket and the letter of a terminal sequence. -/
def isSequencePart (c : Char) : Bool := c.isDigit || c = ';' || c = '?'

/-- What follows the terminal sequence that a text starts with. -/
def afterSequence? : List Char → Option (List Char)
  | '\x1b' :: '[' :: rest =>
    match rest.dropWhile isSequencePart with
    | c :: rest => if c.isAlpha then some rest else none
    | [] => none
  | _ => none

/-- A text without its terminal sequences, after what is kept of the text before it, in reverse.
The first argument bounds how long the text is. -/
def withoutSequencesFrom : Nat → List Char → List Char → List Char
  | 0, kept, text => text.reverseAux kept
  | _ + 1, kept, [] => kept
  | bound + 1, kept, c :: rest =>
    match afterSequence? (c :: rest) with
    | some rest => withoutSequencesFrom bound kept rest
    | none => withoutSequencesFrom bound (c :: kept) rest

/-- A text without its terminal sequences. -/
def withoutSequences (text : String) : String :=
  String.ofList (withoutSequencesFrom text.length [] text.toList).reverse

/-- A text without an escape character has no terminal sequences. -/
theorem withoutSequencesFrom_eq {text : List Char} (h : '\x1b' ∉ text) (bound : Nat)
    (kept : List Char) : withoutSequencesFrom bound kept text = text.reverse ++ kept := by
  induction text generalizing bound kept with
  | nil => cases bound <;> rfl
  | cons c rest ih =>
    cases bound with
    | zero => rw [withoutSequencesFrom, List.reverseAux_eq]
    | succ bound =>
      have hc : c ≠ '\x1b' := fun heq => h (heq ▸ List.mem_cons_self)
      have hnone : afterSequence? (c :: rest) = none := by
        unfold afterSequence?
        split
        · rename_i heq
          exact absurd (List.cons.inj heq).1 hc
        · rfl
      rw [withoutSequencesFrom, hnone]
      simp only
      rw [ih fun hmem => h (List.mem_cons_of_mem _ hmem)]
      simp

@[simp] theorem withoutSequences_of_not_mem {text : String} (h : '\x1b' ∉ text.toList) :
    withoutSequences text = text := by
  simp [withoutSequences, withoutSequencesFrom_eq h]

/-! ## Printing -/

/-- Why a text is not printed: the first surrogates in it, which stand in a row.  It is known where
they start in what would be printed, the code of the first one, and how many they are. -/
structure Unprintable where
  position : Nat
  code : Nat
  size : Nat
  deriving DecidableEq, Repr

/-- The wording of a fault. -/
def Unprintable.message (f : Unprintable) : String :=
  let place :=
    if f.size = 1 then
      "character '\\u" ++ String.ofList (hexDigits 4 f.code) ++ "' in position " ++
        toString f.position
    else
      "characters in position " ++ toString f.position ++ "-" ++ toString (f.position + f.size - 1)
  "'utf-8' codec can't encode " ++ place ++ ": surrogates not allowed"

/-- What is printed of a text that starts with some characters. -/
def printedAfter (before : List Char) : Loose → Except Unprintable String
  | [] => .ok (withoutSequences (String.ofList before.reverse))
  | .char c :: rest => printedAfter (c :: before) rest
  | .surrogate code :: rest =>
    let row := rest.takeWhile fun p => p.char?.isNone
    .error ⟨(withoutSequences (String.ofList before.reverse)).length, code, row.length + 1⟩

/-- What is printed of a text. -/
def printed (text : Loose) : Except Unprintable String := printedAfter [] text

theorem printedAfter_ofChars (before text : List Char) :
    printedAfter before (Loose.ofChars text) =
      .ok (withoutSequences (String.ofList (before.reverse ++ text))) := by
  induction text generalizing before with
  | nil => rw [List.append_nil, Loose.ofChars, List.map_nil, printedAfter]
  | cons c rest ih =>
    show printedAfter (c :: before) (Loose.ofChars rest) = _
    rw [ih, List.reverse_cons, List.append_assoc, List.singleton_append]

@[simp] theorem printed_ofText (text : String) :
    printed text = .ok (withoutSequences text) := by
  rw [printed, Loose.ofText, printedAfter_ofChars, List.reverse_nil, List.nil_append,
    String.ofList_toList]

end Colonnade.Text

import Colonnade.Text.Case
import Colonnade.Text.Quoted

/-!
# Loose texts

An escape may name any code point, and so also a surrogate, which is no character.  A loose text
is a row of code points in which surrogates may occur; the loose texts without any are the texts.
Whatever a document says in words is a loose text, and a text counts as the loose one that it is.
-/

namespace Colonnade.Text

/-- A code point: a character, or a surrogate by its number. -/
inductive CodePoint where
  | char (c : Char)
  | surrogate (code : Nat)
  deriving DecidableEq, Repr

instance : Coe Char CodePoint := ⟨.char⟩

/-- A row of code points. -/
abbrev Loose := List CodePoint

namespace CodePoint

/-- The code point with a number, which must not be too large for one. -/
def ofNat (code : Nat) : CodePoint :=
  if 0xD800 ≤ code ∧ code < 0xE000 then .surrogate code else .char (Char.ofNat code)

/-- The character that a code point is. -/
def char? : CodePoint → Option Char
  | .char c => some c
  | .surrogate _ => none

/-- How a code point stands inside quotes of the given kind. -/
def quoted (quote : Char) : CodePoint → List Char
  | .char c => quotedChar quote c
  | .surrogate code => '\\' :: 'u' :: hexDigits 4 code

end CodePoint

namespace Loose

/-- Characters as a loose text. -/
def ofChars (text : List Char) : Loose := text.map .char

/-- A text as a loose one. -/
def ofText (text : String) : Loose := ofChars text.toList

instance : Coe String Loose := ⟨ofText⟩

/-- The characters of a loose text, if it has no surrogates. -/
def chars? : Loose → Option (List Char)
  | [] => some []
  | .char c :: rest => (chars? rest).map (c :: ·)
  | .surrogate _ :: _ => none

@[simp] theorem chars?_ofChars (text : List Char) : chars? (ofChars text) = some text := by
  induction text with
  | nil => rfl
  | cons c rest ih =>
    simp only [ofChars, List.map_cons, chars?] at ih ⊢
    rw [ih]
    rfl

theorem chars?_eq_some_iff {text : Loose} {chars : List Char} :
    text.chars? = some chars ↔ text = ofChars chars := by
  refine ⟨fun h => ?_, fun h => by rw [h, chars?_ofChars]⟩
  induction text generalizing chars with
  | nil =>
    cases h
    rfl
  | cons point rest ih =>
    cases point with
    | char c =>
      rw [chars?, Option.map_eq_some_iff] at h
      obtain ⟨others, hothers, rfl⟩ := h
      rw [ih hothers]
      rfl
    | surrogate code => cases h

theorem ofChars_inj {a b : List Char} : ofChars a = ofChars b ↔ a = b := by
  refine ⟨fun h => ?_, congrArg ofChars⟩
  have hchars := congrArg chars? h
  rw [chars?_ofChars, chars?_ofChars] at hchars
  exact Option.some.inj hchars

@[simp] theorem ofText_inj {a b : String} : ofText a = ofText b ↔ a = b := by
  rw [ofText, ofText, ofChars_inj, String.toList_inj]

/-- The text that a loose one is, if it has no surrogates. -/
def text? (text : Loose) : Option String := text.chars?.map String.ofList

@[simp] theorem text?_ofText (text : String) : (ofText text).text? = some text := by
  simp [text?, ofText]

theorem text?_eq_some_iff {text : Loose} {s : String} : text.text? = some s ↔ text = ofText s := by
  refine ⟨fun h => ?_, fun h => by rw [h, text?_ofText]⟩
  obtain ⟨chars, hchars, rfl⟩ := Option.map_eq_some_iff.1 h
  rw [chars?_eq_some_iff.1 hchars, ofText, String.toList_ofList]

/-- The characters of a loose text, with another one in the place of every surrogate. -/
def charsOr (other : Char) (text : Loose) : List Char :=
  text.map fun p => p.char?.getD other

/-- A loose text in quotes; surrogates are written by their codes. -/
def quoted (text : Loose) : String :=
  let quote := quoteFor (text.filterMap CodePoint.char?)
  String.ofList (quote :: text.flatMap (CodePoint.quoted quote) ++ [quote])

/-- A text is quoted in the same way as a loose one. -/
theorem quoted_ofText (text : String) : quoted (ofText text) = Text.quoted text := by
  have hchars : (ofText text).filterMap CodePoint.char? = text.toList := by
    rw [ofText, ofChars, List.filterMap_map]
    exact List.filterMap_some
  have hquoted (quote : Char) :
      (ofText text).flatMap (CodePoint.quoted quote) = text.toList.flatMap (quotedChar quote) := by
    rw [ofText, ofChars, List.flatMap_map]
    rfl
  simp [quoted, Text.quoted, hchars, hquoted]

/-- The lower case of a loose text; a surrogate ends a word. -/
def lowerFrom (run : List Char) : Loose → Loose
  | [] => ofChars (lower run.reverse)
  | .char c :: rest => lowerFrom (c :: run) rest
  | .surrogate code :: rest => ofChars (lower run.reverse) ++ .surrogate code :: lowerFrom [] rest

/-- The lower case of a loose text. -/
def lower (text : Loose) : Loose := lowerFrom [] text

/-- The text that a loose one is written as: two surrogates that make up a pair are the character
that the pair stands for, and one alone is written as the mark for what is no character. -/
def joined : Loose → List Char
  | [] => []
  | .char c :: rest => c :: joined rest
  | .surrogate high :: .surrogate low :: rest =>
    if high < 0xDC00 ∧ 0xDC00 ≤ low then
      Char.ofNat (0x10000 + (high - 0xD800) * 0x400 + (low - 0xDC00)) :: joined rest
    else '\uFFFD' :: joined (.surrogate low :: rest)
  | .surrogate _ :: rest => '\uFFFD' :: joined rest

/-- A text without surrogates is written as it is. -/
@[simp] theorem joined_ofChars (text : List Char) : joined (ofChars text) = text := by
  induction text with
  | nil => rfl
  | cons c rest ih => simpa [ofChars, joined] using ih

end Loose

end Colonnade.Text

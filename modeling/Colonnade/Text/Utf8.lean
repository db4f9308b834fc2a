import Colonnade.Text.Quoted

/-!
# UTF-8

Characters are stored as one to four bytes.  Decoding is strict: overlong forms, surrogates and
code points beyond the last one are refused, and a fault says where it is, how many bytes it
takes in, and why.
-/

namespace Colonnade.Text.Utf8

/-- Why bytes are not UTF-8. -/
inductive Reason where
  | start
  | continuation
  | endOfData
  deriving DecidableEq, Repr

/-- A fault: where the broken character starts, how many bytes of it were read, and the first of
them. -/
structure Fault where
  position : Nat
  size : Nat
  byte : UInt8
  reason : Reason
  deriving DecidableEq, Repr

/-- The wording of a reason. -/
def Reason.message : Reason → String
  | .start => "invalid start byte"
  | .continuation => "invalid continuation byte"
  | .endOfData => "unexpected end of data"

/-- The wording of a fault. -/
def Fault.message (f : Fault) : String :=
  let place :=
    if f.size = 1 then
      "byte 0x" ++ String.ofList (hexDigits 2 f.byte.toNat) ++ " in position " ++
        toString f.position
    else "bytes in position " ++ toString f.position ++ "-" ++ toString (f.position + f.size - 1)
  "'utf-8' codec can't decode " ++ place ++ ": " ++ f.reason.message

/-- A character that has begun: where, with which byte, how many bytes are read, the value so
far, how many bytes are still needed, and the range of the next one. -/
structure Pending where
  position : Nat
  byte : UInt8
  size : Nat
  value : Nat
  needed : Nat
  low : Nat
  high : Nat

/-- What a byte that does not stand alone begins. -/
def Pending.begin? (position : Nat) (byte : UInt8) : Option Pending :=
  let b := byte.toNat
  if b < 0xC2 then none
  else if b < 0xE0 then some ⟨position, byte, 1, b % 0x20, 1, 0x80, 0xBF⟩
  else if b = 0xE0 then some ⟨position, byte, 1, 0, 2, 0xA0, 0xBF⟩
  else if b = 0xED then some ⟨position, byte, 1, 0xD, 2, 0x80, 0x9F⟩
  else if b < 0xF0 then some ⟨position, byte, 1, b % 0x10, 2, 0x80, 0xBF⟩
  else if b = 0xF0 then some ⟨position, byte, 1, 0, 3, 0x90, 0xBF⟩
  else if b < 0xF4 then some ⟨position, byte, 1, b % 8, 3, 0x80, 0xBF⟩
  else if b = 0xF4 then some ⟨position, byte, 1, 4, 3, 0x80, 0x8F⟩
  else none

/-- The fault of a character that stops short. -/
def Pending.fault (p : Pending) (reason : Reason) : Fault :=
  ⟨p.position, p.size, p.byte, reason⟩

/-- Decodes bytes from a position on, after a character that may have begun. -/
def decodeFrom (position : Nat) : Option Pending → List UInt8 → Except Fault (List Char)
  | none, [] => .ok []
  | some p, [] => .error (p.fault .endOfData)
  | none, byte :: rest =>
    if byte < 0x80 then
      (decodeFrom (position + 1) none rest).map (Char.ofNat byte.toNat :: ·)
    else
      match Pending.begin? position byte with
      | none => .error ⟨position, 1, byte, .start⟩
      | some p => decodeFrom (position + 1) (some p) rest
  | some p, byte :: rest =>
    if p.low ≤ byte.toNat ∧ byte.toNat ≤ p.high then
      let value := p.value * 0x40 + byte.toNat % 0x40
      if p.needed ≤ 1 then
        (decodeFrom (position + 1) none rest).map (Char.ofNat value :: ·)
      else
        decodeFrom (position + 1)
          (some { p with
            size := p.size + 1, value := value, needed := p.needed - 1, low := 0x80, high := 0xBF })
          rest
    else .error (p.fault .continuation)

/-- The characters that bytes store. -/
def decode (bytes : List UInt8) : Except Fault (List Char) :=
  decodeFrom 0 none bytes

/-- The bytes that store a text. -/
def encode (text : String) : List UInt8 :=
  text.toUTF8.toList

@[simp] theorem decode_nil : decode [] = .ok [] := rfl

end Colonnade.Text.Utf8

/-!
# Words in bytes

A word of thirty-two bits is stored as four bytes, the lowest first.  `decodeWords` reads a list
of bytes as words and drops what is left over.
-/

namespace Colonnade.Bytes

/-- The four bytes of a word. -/
def encodeWord (w : UInt32) : List UInt8 :=
  let n := w.toNat
  [.ofNat n, .ofNat (n / 0x100), .ofNat (n / 0x10000), .ofNat (n / 0x1000000)]

/-- The word that four bytes store. -/
def decodeWord (a b c d : UInt8) : UInt32 :=
  .ofNat (a.toNat + 0x100 * b.toNat + 0x10000 * c.toNat + 0x1000000 * d.toNat)

/-- The bytes of words in a row. -/
def encodeWords (ws : List UInt32) : List UInt8 := ws.flatMap encodeWord

/-- The words that bytes store. -/
def decodeWords : List UInt8 → List UInt32
  | a :: b :: c :: d :: rest => decodeWord a b c d :: decodeWords rest
  | _ => []

theorem decodeWord_ofNat (w : UInt32) :
    decodeWord (.ofNat w.toNat) (.ofNat (w.toNat / 0x100)) (.ofNat (w.toNat / 0x10000))
      (.ofNat (w.toNat / 0x1000000)) = w := by
  have h := w.toNat_lt
  apply UInt32.toNat.inj
  simp only [decodeWord, UInt32.toNat_ofNat', UInt8.toNat_ofNat']
  omega

/-- Words are read as they were written. -/
@[simp] theorem decodeWords_encodeWords (ws : List UInt32) : decodeWords (encodeWords ws) = ws := by
  induction ws with
  | nil => rfl
  | cons w rest ih =>
    change decodeWord _ _ _ _ :: decodeWords (encodeWords rest) = w :: rest
    rw [decodeWord_ofNat, ih]

@[simp] theorem length_encodeWords (ws : List UInt32) :
    (encodeWords ws).length = 4 * ws.length := by
  induction ws with
  | nil => rfl
  | cons w rest ih =>
    simp only [encodeWords, List.flatMap_cons, List.length_append, List.length_cons] at ih ⊢
    simp only [encodeWord, List.length_cons, List.length_nil]
    omega

@[simp] theorem encodeWords_append (a b : List UInt32) :
    encodeWords (a ++ b) = encodeWords a ++ encodeWords b := by
  simp [encodeWords]

end Colonnade.Bytes

import Colonnade.Proofs.Warning.Run
import Colonnade.Text.Utf8

/-!
# Decoding is the inverse of encoding

The strict decoder accepts exactly the bytes that store a text (`decode_eq_ok_iff`), where every
character is stored as `String.utf8EncodeChar` says.

The decoder takes one byte at a time, so the bond between bytes and characters is an invariant of
what is pending.  `Pending.Sound` says what the bytes read so far are good for: whatever bytes of the
right number and ranges come next, together they store the character whose value the decoder will
have by then.  A first byte establishes it (`sound_of_begin?`), every further one keeps it
(`Pending.Sound.step`), and with the last one it names the character.  The other way round, the bytes
of a character are a first one that the decoder takes and a tail for it (`exists_begins`).
-/

namespace Colonnade.Text.Utf8

/-! ## Characters by value -/

theorem toNat_ofNat {n : Nat} (h : n.isValidChar) : (Char.ofNat n).toNat = n := by
  rw [Char.ofNat, dif_pos h]
  rfl

/-- The bytes that store the character with a value. -/
def stored (value : Nat) : List UInt8 :=
  String.utf8EncodeChar (Char.ofNat value)

theorem toNat_byte {n : Nat} (h : n < 256) : (UInt8.ofNat n).toNat = n :=
  UInt8.toNat_ofNat_of_lt' h

/-- A byte is known by its number. -/
theorem ofNat_eq {n : Nat} {b : UInt8} (h : n = b.toNat) : UInt8.ofNat n = b := by
  rw [h]
  exact UInt8.ofNat_toNat

theorem stored_one {v : Nat} {a : UInt8} (hv : v ≤ 0x7F) (ha : v = a.toNat) : stored v = [a] := by
  have hvalue : (Char.ofNat v).val.toNat = v := toNat_ofNat (.inl (by omega))
  unfold stored String.utf8EncodeChar
  rw [hvalue, if_pos hv, ofNat_eq ha]

theorem stored_two {v : Nat} {a b : UInt8} (hlow : 0x7F < v) (hhigh : v ≤ 0x7FF)
    (ha : v / 64 % 32 + 192 = a.toNat) (hb : v % 64 + 128 = b.toNat) : stored v = [a, b] := by
  have hvalue : (Char.ofNat v).val.toNat = v := toNat_ofNat (.inl (by omega))
  unfold stored String.utf8EncodeChar
  rw [hvalue, if_neg (Nat.not_le.2 hlow), if_pos hhigh, ofNat_eq ha, ofNat_eq hb]

theorem stored_three {v : Nat} {a b c : UInt8} (hlow : 0x7FF < v) (hhigh : v ≤ 0xFFFF)
    (hvalid : v.isValidChar) (ha : v / 4096 % 16 + 224 = a.toNat)
    (hb : v / 64 % 64 + 128 = b.toNat) (hc : v % 64 + 128 = c.toNat) : stored v = [a, b, c] := by
  have hvalue : (Char.ofNat v).val.toNat = v := toNat_ofNat hvalid
  unfold stored String.utf8EncodeChar
  rw [hvalue, if_neg (by omega), if_neg (Nat.not_le.2 hlow), if_pos hhigh, ofNat_eq ha,
    ofNat_eq hb, ofNat_eq hc]

theorem stored_four {v : Nat} {a b c d : UInt8} (hlow : 0xFFFF < v) (hhigh : v ≤ 0x10FFFF)
    (ha : v / 262144 % 8 + 240 = a.toNat) (hb : v / 4096 % 64 + 128 = b.toNat)
    (hc : v / 64 % 64 + 128 = c.toNat) (hd : v % 64 + 128 = d.toNat) :
    stored v = [a, b, c, d] := by
  have hvalue : (Char.ofNat v).val.toNat = v := toNat_ofNat (.inr ⟨by omega, by omega⟩)
  unfold stored String.utf8EncodeChar
  rw [hvalue, if_neg (by omega), if_neg (by omega), if_neg (Nat.not_le.2 hlow), ofNat_eq ha,
    ofNat_eq hb, ofNat_eq hc, ofNat_eq hd]

/-! ## What is pending -/

/-- Bytes that may come after the first one of a character: as many as are needed, the first of them
in a range of its own. -/
def Pending.Tail (p : Pending) : List UInt8 → Prop
  | [] => False
  | byte :: rest => rest.length + 1 = p.needed ∧ p.low ≤ byte.toNat ∧ byte.toNat ≤ p.high ∧
      ∀ b ∈ rest, 0x80 ≤ b.toNat ∧ b.toNat ≤ 0xBF

/-- The value of a character once all its bytes are read. -/
def Pending.total (p : Pending) (tail : List UInt8) : Nat :=
  tail.foldl (fun value byte => value * 0x40 + byte.toNat % 0x40) p.value

/-- The bytes read so far, with any tail, store the character that the decoder will have. -/
structure Pending.Sound (p : Pending) (read : List UInt8) : Prop where
  needed_pos : 0 < p.needed
  stores : ∀ tail, p.Tail tail → stored (p.total tail) = read ++ tail

/-- A first byte with one more to come. -/
theorem sound_two {position : Nat} {byte : UInt8} (hlow : 0xC2 ≤ byte.toNat)
    (hhigh : byte.toNat < 0xE0) :
    Pending.Sound ⟨position, byte, 1, byte.toNat % 32, 1, 0x80, 0xBF⟩ [byte] := by
  refine ⟨Nat.one_pos, fun tail htail => ?_⟩
  match tail, htail with
  | [b], ⟨_, (hb : 0x80 ≤ b.toNat), (hb' : b.toNat ≤ 0xBF), _⟩ =>
    have htotal : Pending.total ⟨position, byte, 1, byte.toNat % 32, 1, 0x80, 0xBF⟩ [b] =
        byte.toNat % 32 * 64 + b.toNat % 64 := rfl
    rw [htotal]
    apply stored_two <;> omega
  | [], h => exact h.elim
  | _ :: _ :: _, ⟨hlength, _⟩ => simp at hlength

/-- A first byte with two more to come. -/
theorem sound_three {position low high : Nat} {byte : UInt8} {value : Nat}
    (hbyte : byte.toNat = 224 + value) (hvalue : value < 16) (hlow : 0x80 ≤ low)
    (hhigh : high ≤ 0xBF) (hshort : value = 0 → 0xA0 ≤ low) (hsurrogate : value = 13 → high ≤ 0x9F) :
    Pending.Sound ⟨position, byte, 1, value, 2, low, high⟩ [byte] := by
  refine ⟨Nat.succ_pos _, fun tail htail => ?_⟩
  match tail, htail with
  | [b, c], ⟨_, (hb : low ≤ b.toNat), (hb' : b.toNat ≤ high), hrest⟩ =>
    obtain ⟨hc, hc'⟩ := hrest c List.mem_cons_self
    have htotal : Pending.total ⟨position, byte, 1, value, 2, low, high⟩ [b, c] =
        (value * 64 + b.toNat % 64) * 64 + c.toNat % 64 := rfl
    rw [htotal]
    refine stored_three ?_ ?_ ?_ ?_ ?_ ?_
    case refine_3 =>
      rcases Nat.lt_or_ge value 14 with hvalue | hvalue
      · exact .inl (by omega)
      · exact .inr ⟨by omega, by omega⟩
    all_goals omega
  | [], h => exact h.elim
  | [_], ⟨hlength, _⟩ => simp at hlength
  | _ :: _ :: _ :: _, ⟨hlength, _⟩ => simp at hlength

/-- A first byte with three more to come. -/
theorem sound_four {position low high : Nat} {byte : UInt8} {value : Nat}
    (hbyte : byte.toNat = 240 + value) (hvalue : value ≤ 4) (hlow : 0x80 ≤ low)
    (hhigh : high ≤ 0xBF) (hshort : value = 0 → 0x90 ≤ low) (hlast : value = 4 → high ≤ 0x8F) :
    Pending.Sound ⟨position, byte, 1, value, 3, low, high⟩ [byte] := by
  refine ⟨Nat.succ_pos _, fun tail htail => ?_⟩
  match tail, htail with
  | [b, c, d], ⟨_, (hb : low ≤ b.toNat), (hb' : b.toNat ≤ high), hrest⟩ =>
    obtain ⟨hc, hc'⟩ := hrest c List.mem_cons_self
    obtain ⟨hd, hd'⟩ := hrest d (List.mem_cons_of_mem c List.mem_cons_self)
    have htotal : Pending.total ⟨position, byte, 1, value, 3, low, high⟩ [b, c, d] =
        ((value * 64 + b.toNat % 64) * 64 + c.toNat % 64) * 64 + d.toNat % 64 := rfl
    rw [htotal]
    apply stored_four <;> omega
  | [], h => exact h.elim
  | [_], ⟨hlength, _⟩ => simp at hlength
  | [_, _], ⟨hlength, _⟩ => simp at hlength
  | _ :: _ :: _ :: _ :: _, ⟨hlength, _⟩ => simp at hlength

/-- The first byte of a character is sound. -/
theorem sound_of_begin? {position : Nat} {byte : UInt8} {p : Pending}
    (h : Pending.begin? position byte = some p) : p.Sound [byte] := by
  unfold Pending.begin? at h
  dsimp only at h
  -- One case for each range of first bytes.
  split at h
  · cases h
  split at h
  · cases h
    exact sound_two (by omega) (by omega)
  iterate 3
    split at h
    · cases h
      apply sound_three <;> omega
  iterate 3
    split at h
    · cases h
      apply sound_four <;> omega
  cases h

/-- A byte in its range, not the last one, keeps what is pending sound. -/
theorem Pending.Sound.step {p : Pending} {read : List UInt8} (h : p.Sound read) {byte : UInt8}
    (hlow : p.low ≤ byte.toNat) (hhigh : byte.toNat ≤ p.high) (hneeded : ¬p.needed ≤ 1) :
    Pending.Sound
      { p with
        size := p.size + 1
        value := p.value * 0x40 + byte.toNat % 0x40
        needed := p.needed - 1
        low := 0x80
        high := 0xBF }
      (read ++ [byte]) := by
  refine ⟨by simp only; omega, fun tail htail => ?_⟩
  cases tail with
  | nil => exact htail.elim
  | cons b rest =>
    obtain ⟨hlength, hb, hb', hrest⟩ := htail
    have htail : p.Tail (byte :: b :: rest) :=
      ⟨by simp only [List.length_cons] at *; omega, hlow, hhigh,
        List.forall_mem_cons.2 ⟨⟨hb, hb'⟩, hrest⟩⟩
    have hstores := h.stores _ htail
    rwa [List.append_assoc]

/-- What is pending after the bytes read so far, which are none between two characters. -/
def Started : Option Pending → List UInt8 → Prop
  | none, read => read = []
  | some p, read => p.Sound read

/-! ## Decoding -/

/-- The bytes that store a text. -/
def storedText (chars : List Char) : List UInt8 :=
  chars.flatMap String.utf8EncodeChar

theorem storedText_cons (c : Char) (chars : List Char) :
    storedText (c :: chars) = String.utf8EncodeChar c ++ storedText chars :=
  List.flatMap_cons

/-- What is decoded is stored by the bytes. -/
theorem eq_storedText_of_decodeFrom {position : Nat} {pending : Option Pending}
    {read bytes : List UInt8} {chars : List Char} (hread : Started pending read)
    (h : decodeFrom position pending bytes = .ok chars) : read ++ bytes = storedText chars := by
  fun_induction decodeFrom position pending bytes generalizing read chars with
  | case1 =>
    cases h
    rw [show read = [] from hread]
    rfl
  | case2 => cases h
  | case3 position byte rest hbyte ih =>
    obtain ⟨chars, hchars, rfl⟩ := except_map_eq_ok_iff.1 h
    have hvalue : byte.toNat ≤ 0x7F := Nat.le_of_lt_succ (UInt8.lt_iff_toNat_lt.1 hbyte)
    rw [show read = [] from hread, storedText_cons, ← ih rfl hchars]
    exact congrArg (· ++ rest) (stored_one hvalue rfl).symm
  | case4 => cases h
  | case5 position byte rest hbyte p hp ih =>
    rw [show read = [] from hread]
    exact ih (sound_of_begin? hp) h
  | case6 position p byte rest hrange value hneeded =>
    rename_i ih
    -- With its last byte the character is whole.
    obtain ⟨chars, hchars, rfl⟩ := except_map_eq_ok_iff.1 h
    have htail : p.Tail [byte] :=
      ⟨Nat.le_antisymm hread.needed_pos hneeded, hrange.1, hrange.2, by simp⟩
    have hstores : String.utf8EncodeChar _ = read ++ [byte] := hread.stores _ htail
    rw [storedText_cons, ← ih rfl hchars]
    exact (List.append_assoc read [byte] rest).symm.trans (congrArg (· ++ rest) hstores.symm)
  | case7 position p byte rest hrange value hneeded =>
    rename_i ih
    rw [← ih (hread.step hrange.1 hrange.2 hneeded) h, List.append_assoc]
    rfl
  | case8 => cases h

/-- A tail gives the character with its value. -/
theorem decodeFrom_tail {p : Pending} {tail : List UInt8} (h : p.Tail tail) (position : Nat)
    (rest : List UInt8) :
    decodeFrom position (some p) (tail ++ rest) =
      (decodeFrom (position + tail.length) none rest).map (Char.ofNat (p.total tail) :: ·) := by
  induction tail generalizing p position with
  | nil => exact h.elim
  | cons byte tail ih =>
    obtain ⟨hlength, hb, hb', hrest⟩ := h
    rw [List.cons_append, decodeFrom, if_pos ⟨hb, hb'⟩]
    dsimp only
    cases tail with
    | nil =>
      have hneeded : p.needed ≤ 1 := Nat.le_of_eq hlength.symm
      rw [if_pos hneeded]
      rfl
    | cons next tail =>
      obtain ⟨hnext, htail⟩ := List.forall_mem_cons.1 hrest
      have hlength' : tail.length + 1 = p.needed - 1 := by
        simp only [List.length_cons] at hlength
        omega
      rw [if_neg (by omega), ih ⟨hlength', hnext.1, hnext.2, htail⟩,
        List.length_cons (a := byte), Nat.add_assoc, Nat.add_comm 1]
      rfl

/-- The decoder takes a byte as the first of a character with a value, and others as its tail. -/
def Begins (position : Nat) (byte : UInt8) (tail : List UInt8) (value : Nat) : Prop :=
  ∃ p, Pending.begin? position byte = some p ∧ p.Tail tail ∧ p.total tail = value

theorem begins_two {a b : UInt8} {v : Nat} (position : Nat) (hlow : 0x7F < v) (hhigh : v ≤ 0x7FF)
    (ha : a.toNat = v / 64 % 32 + 192) (hb : b.toNat = v % 64 + 128) :
    Begins position a [b] v := by
  have hbegin : Pending.begin? position a = some ⟨position, a, 1, a.toNat % 32, 1, 0x80, 0xBF⟩ := by
    unfold Pending.begin?
    dsimp only
    rw [if_neg (by omega), if_pos (by omega)]
  refine ⟨_, hbegin, ⟨rfl, ?_, ?_, by simp⟩, ?_⟩
  · show 0x80 ≤ b.toNat
    omega
  · show b.toNat ≤ 0xBF
    omega
  · show a.toNat % 32 * 64 + b.toNat % 64 = v
    omega

/-- The range of the second of three bytes. -/
theorem begin?_three (position : Nat) {value : Nat} {byte : UInt8}
    (hbyte : byte.toNat = 224 + value) (hvalue : value < 16) :
    ∃ low high, Pending.begin? position byte = some ⟨position, byte, 1, value, 2, low, high⟩ ∧
      (low = 0x80 ∨ value = 0 ∧ low = 0xA0) ∧ (high = 0xBF ∨ value = 13 ∧ high = 0x9F) := by
  unfold Pending.begin?
  dsimp only
  rw [if_neg (by omega), if_neg (by omega)]
  split
  · obtain rfl : value = 0 := by omega
    exact ⟨_, _, rfl, .inr ⟨rfl, rfl⟩, .inl rfl⟩
  split
  · obtain rfl : value = 13 := by omega
    exact ⟨_, _, rfl, .inl rfl, .inr ⟨rfl, rfl⟩⟩
  · rw [if_pos (by omega), show byte.toNat % 0x10 = value by omega]
    exact ⟨_, _, rfl, .inl rfl, .inl rfl⟩

theorem begins_three {a b c : UInt8} {v : Nat} (position : Nat) (hlow : 0x7FF < v)
    (hhigh : v ≤ 0xFFFF) (hvalid : v.isValidChar) (ha : a.toNat = v / 4096 % 16 + 224)
    (hb : b.toNat = v / 64 % 64 + 128) (hc : c.toNat = v % 64 + 128) :
    Begins position a [b, c] v := by
  have hfirst : a.toNat = 224 + v / 4096 := by omega
  obtain ⟨low, high, hbegin, hbyte, hbyte'⟩ := begin?_three position hfirst (by omega)
  have hsurrogate : ¬(0xD800 ≤ v ∧ v ≤ 0xDFFF) := by
    rcases hvalid with h | ⟨h, _⟩ <;> omega
  refine ⟨_, hbegin, ⟨rfl, ?_, ?_, ?_⟩, ?_⟩
  · show low ≤ b.toNat
    omega
  · show b.toNat ≤ high
    omega
  · simp only [List.mem_singleton, forall_eq]
    omega
  · show (v / 4096 * 64 + b.toNat % 64) * 64 + c.toNat % 64 = v
    omega

/-- The range of the second of four bytes. -/
theorem begin?_four (position : Nat) {value : Nat} {byte : UInt8}
    (hbyte : byte.toNat = 240 + value) (hvalue : value ≤ 4) :
    ∃ low high, Pending.begin? position byte = some ⟨position, byte, 1, value, 3, low, high⟩ ∧
      (low = 0x80 ∨ value = 0 ∧ low = 0x90) ∧ (high = 0xBF ∨ value = 4 ∧ high = 0x8F) := by
  unfold Pending.begin?
  dsimp only
  rw [if_neg (by omega), if_neg (by omega), if_neg (by omega), if_neg (by omega),
    if_neg (by omega)]
  split
  · obtain rfl : value = 0 := by omega
    exact ⟨_, _, rfl, .inr ⟨rfl, rfl⟩, .inl rfl⟩
  split
  · rw [show byte.toNat % 8 = value by omega]
    exact ⟨_, _, rfl, .inl rfl, .inl rfl⟩
  · obtain rfl : value = 4 := by omega
    rw [if_pos (by omega)]
    exact ⟨_, _, rfl, .inl rfl, .inr ⟨rfl, rfl⟩⟩

theorem begins_four {a b c d : UInt8} {v : Nat} (position : Nat) (hlow : 0xFFFF < v)
    (hhigh : v ≤ 0x10FFFF) (ha : a.toNat = v / 262144 % 8 + 240)
    (hb : b.toNat = v / 4096 % 64 + 128) (hc : c.toNat = v / 64 % 64 + 128)
    (hd : d.toNat = v % 64 + 128) : Begins position a [b, c, d] v := by
  have hfirst : a.toNat = 240 + v / 262144 := by omega
  obtain ⟨low, high, hbegin, hbyte, hbyte'⟩ := begin?_four position hfirst (by omega)
  refine ⟨_, hbegin, ⟨rfl, ?_, ?_, ?_⟩, ?_⟩
  · show low ≤ b.toNat
    omega
  · show b.toNat ≤ high
    omega
  · simp only [List.mem_cons, List.not_mem_nil, or_false, forall_eq_or_imp, forall_eq]
    omega
  · show ((v / 262144 * 64 + b.toNat % 64) * 64 + c.toNat % 64) * 64 + d.toNat % 64 = v
    omega

/-- The bytes of a character that takes several are a first one and a tail for it. -/
theorem exists_begins (c : Char) (hc : 0x7F < c.toNat) (position : Nat) :
    ∃ byte tail, String.utf8EncodeChar c = byte :: tail ∧ Begins position byte tail c.toNat := by
  have hvalid : c.toNat.isValidChar := c.valid
  have hlast : c.toNat ≤ 0x10FFFF := by
    rcases hvalid with h | ⟨_, h⟩ <;> omega
  generalize hv : c.toNat = v at hc hvalid hlast
  have hval : c.val.toNat = v := hv
  unfold String.utf8EncodeChar
  simp only [hval, if_neg (Nat.not_le.2 hc)]
  split
  · refine ⟨_, _, rfl, begins_two position hc ‹_› ?_ ?_⟩ <;> exact toNat_byte (by omega)
  split
  · refine ⟨_, _, rfl, begins_three position (Nat.not_le.1 ‹_›) ‹_› hvalid ?_ ?_ ?_⟩ <;>
      exact toNat_byte (by omega)
  · refine ⟨_, _, rfl, begins_four position (Nat.not_le.1 ‹_›) hlast ?_ ?_ ?_ ?_⟩ <;>
      exact toNat_byte (by omega)

/-- The bytes of a character give the character back. -/
theorem decodeFrom_utf8EncodeChar (c : Char) (position : Nat) (rest : List UInt8) :
    ∃ next, decodeFrom position none (String.utf8EncodeChar c ++ rest) =
      (decodeFrom next none rest).map (c :: ·) := by
  rcases Nat.lt_or_ge 0x7F c.toNat with hc | hc
  · obtain ⟨byte, tail, hbytes, p, hbegin, htail, htotal⟩ := exists_begins c hc position
    have hbyte : ¬byte < 0x80 := by
      intro hlt
      have : byte.toNat < 0x80 := UInt8.lt_iff_toNat_lt.1 hlt
      unfold Pending.begin? at hbegin
      dsimp only at hbegin
      rw [if_pos (by omega)] at hbegin
      cases hbegin
    refine ⟨position + 1 + tail.length, ?_⟩
    rw [hbytes, List.cons_append, decodeFrom, if_neg hbyte, hbegin]
    dsimp only
    rw [decodeFrom_tail htail, htotal, Char.ofNat_toNat]
  · have hval : c.val.toNat ≤ 0x7F := hc
    have hbyte : (UInt8.ofNat c.toNat).toNat = c.toNat := toNat_byte (by omega)
    have hlt : UInt8.ofNat c.toNat < 0x80 := by
      rw [UInt8.lt_iff_toNat_lt, hbyte]
      exact Nat.lt_succ_of_le hc
    have hbytes : String.utf8EncodeChar c = [UInt8.ofNat c.toNat] := by
      unfold String.utf8EncodeChar
      simp only [if_pos hval]
      rfl
    refine ⟨position + 1, ?_⟩
    rw [hbytes, List.cons_append, List.nil_append, decodeFrom, if_pos hlt, hbyte,
      Char.ofNat_toNat]

theorem decodeFrom_storedText (chars : List Char) (position : Nat) :
    decodeFrom position none (storedText chars) = .ok chars := by
  induction chars generalizing position with
  | nil => rfl
  | cons c chars ih =>
    obtain ⟨next, h⟩ := decodeFrom_utf8EncodeChar c position (storedText chars)
    rw [storedText_cons, h, ih]
    rfl

/-- The decoder accepts exactly the bytes that store a text, and gives that text. -/
theorem decode_eq_ok_iff {bytes : List UInt8} {chars : List Char} :
    decode bytes = .ok chars ↔ bytes = storedText chars :=
  ⟨fun h => eq_storedText_of_decodeFrom (show Started none [] from rfl) h,
    fun h => h ▸ decodeFrom_storedText chars 0⟩

end Colonnade.Text.Utf8

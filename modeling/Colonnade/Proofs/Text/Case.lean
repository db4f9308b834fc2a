import Colonnade.Proofs.Text.Utf8
import Colonnade.Text.Case

/-!
# Texts with an ASCII lower case

A text that is ASCII in lower case need not be ASCII itself: the lower case of the Kelvin sign is
the letter k.  It is the only such character (`exists_mem_lowerChar`), so a text whose lower case is
ASCII without that letter has been ASCII all along (`ascii_of_lower`).  Comparing such texts in
lower case is then the same as comparing them letter by letter.
-/

namespace Colonnade.Text

/-- The lower case of a run of capital letters consists of characters above ASCII. -/
def staysAbove (run : Nat × Nat × Nat × Int) : Bool :=
  let (first, last, _, shift) := run
  0x80 ≤ first + shift &&
    (last + shift < 0xD800 || (0xE000 ≤ first + shift && last + shift < 0x110000))

/-- All runs but that of the Kelvin sign stay above ASCII. -/
theorem staysAbove_capitalRuns :
    ∀ run ∈ capitalRuns, run = (0x212A, 0x212A, 1, -8383) ∨ staysAbove run = true := by
  decide +kernel

/-- What becomes of a character above ASCII is no ASCII letter but k. -/
theorem exists_mem_lowerChar {c : Char} (h : 0x80 ≤ c.toNat) :
    ∃ d ∈ lowerChar c, 0x80 ≤ d.toNat ∨ d = 'k' := by
  rw [lowerChar, if_neg (Nat.not_lt.2 h)]
  split
  · exact ⟨'\u0307', by decide, .inl (by decide)⟩
  · split
    · rename_i first last step shift hfind
      have hmem := Array.mem_of_find?_eq_some hfind
      have hrange := Array.find?_some hfind
      simp only [Bool.and_eq_true, decide_eq_true_eq] at hrange
      obtain ⟨⟨hfirst, hlast⟩, _⟩ := hrange
      refine ⟨_, List.mem_singleton.2 rfl, ?_⟩
      rcases staysAbove_capitalRuns _ hmem with hkelvin | habove
      · cases hkelvin
        have hc : c.toNat = 0x212A := by omega
        rw [hc]
        exact .inr rfl
      · simp only [staysAbove, Bool.and_eq_true, Bool.or_eq_true, decide_eq_true_eq] at habove
        rw [Utf8.toNat_ofNat (by unfold Nat.isValidChar; omega)]
        exact .inl (by omega)
    · exact ⟨c, List.mem_singleton.2 rfl, .inl h⟩

/-- A text that is ASCII in lower case, without a k, is ASCII. -/
theorem ascii_of_lowerFrom {before text : List Char}
    (h : ∀ d ∈ lowerFrom before text, d.toNat < 0x80 ∧ d ≠ 'k') : ∀ c ∈ text, c.toNat < 0x80 := by
  induction text generalizing before with
  | nil => exact fun c hc => absurd hc List.not_mem_nil
  | cons c rest ih =>
    rw [lowerFrom] at h
    obtain ⟨hfirst, hrest⟩ := List.forall_mem_append.1 h
    refine List.forall_mem_cons.2 ⟨Nat.lt_of_not_le fun habove => ?_, ih hrest⟩
    split at hfirst
    · exact absurd (hfirst _ (List.mem_singleton.2 rfl)).1 (by decide)
    · obtain ⟨d, hd, hlarge | rfl⟩ := exists_mem_lowerChar habove
      · exact absurd (hfirst d hd).1 (Nat.not_lt.2 hlarge)
      · exact (hfirst _ hd).2 rfl

theorem ascii_of_lower {text : List Char} (h : ∀ d ∈ lower text, d.toNat < 0x80 ∧ d ≠ 'k') :
    ∀ c ∈ text, c.toNat < 0x80 :=
  ascii_of_lowerFrom h

/-- A character above ASCII is left alone by the lower case of ASCII letters. -/
theorem toLower_of_le {c : Char} (h : 0x80 ≤ c.toNat) : c.toLower = c := by
  have hcapital : ¬(c.val ≥ 'A'.val ∧ c.val ≤ 'Z'.val) := by
    rintro ⟨_, hz⟩
    have hcode : c.toNat ≤ 90 := UInt32.le_iff_toNat_le.1 hz
    omega
  exact dif_neg hcapital

end Colonnade.Text

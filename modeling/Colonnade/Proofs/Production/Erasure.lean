import Colonnade.Production.Expansion

/-!
# Symbols that are erased

A rule with an empty replacement erases its symbol, and only so can a string become shorter.  Every
other symbol becomes one symbol or more, so what a string loses in a round is at most what the round
erases of it (`length_le_derive`), and the same holds of any number of rounds (`length_le_deriveTimes`).
This bounds the strings on the way by the string at the end.
-/

namespace Colonnade.Production.Table

open Text (CodePoint Loose)

/-- How many symbols of a string the next round erases. -/
def erased (t : Table) (symbols : Loose) : Nat := symbols.countP fun c => (t.image c).isEmpty

/-- How many symbols a number of rounds erase in all. -/
def erasedIn (t : Table) : Nat → Loose → Nat
  | 0, _ => 0
  | rounds + 1, symbols => t.erased symbols + t.erasedIn rounds (t.derive symbols)

section Length

variable (t : Table)

/-- Some rounds after others are so many rounds in all. -/
theorem deriveTimes_add (m n : Nat) (symbols : Loose) :
    t.deriveTimes (m + n) symbols = t.deriveTimes n (t.deriveTimes m symbols) := by
  induction m generalizing symbols with
  | zero => rw [Nat.zero_add, deriveTimes]
  | succ m ih =>
    rw [Nat.succ_add, deriveTimes, deriveTimes]
    exact ih _

/-- A round makes a string shorter by no more than what it erases. -/
theorem length_le_derive (symbols : Loose) :
    symbols.length ≤ (t.derive symbols).length + t.erased symbols := by
  induction symbols with
  | nil => exact Nat.zero_le _
  | cons c rest ih =>
    have hderive : t.derive (c :: rest) = t.image c ++ t.derive rest := rfl
    have herased : t.erased (c :: rest) =
        t.erased rest + if (t.image c).isEmpty then 1 else 0 := List.countP_cons
    rw [hderive, herased, List.length_cons, List.length_append]
    by_cases hempty : (t.image c).isEmpty = true
    · rw [if_pos hempty]
      omega
    · have himage : 0 < (t.image c).length := by
        apply List.length_pos_iff.2
        intro hnil
        exact hempty (by rw [hnil]; rfl)
      omega

/-- Some rounds make a string shorter by no more than what they erase. -/
theorem length_le_deriveTimes (rounds : Nat) (symbols : Loose) :
    symbols.length ≤ (t.deriveTimes rounds symbols).length + t.erasedIn rounds symbols := by
  induction rounds generalizing symbols with
  | zero => exact Nat.le_add_right _ _
  | succ rounds ih =>
    have hround := t.length_le_derive symbols
    have hrest := ih (t.derive symbols)
    rw [deriveTimes, erasedIn]
    omega

/-- The string after some of the rounds is no longer than the string after all of them, but for what
the rounds in between erase. -/
theorem length_deriveTimes_le {k rounds : Nat} (hk : k ≤ rounds) (symbols : Loose) :
    (t.deriveTimes k symbols).length ≤ (t.deriveTimes rounds symbols).length +
      t.erasedIn (rounds - k) (t.deriveTimes k symbols) := by
  have hlast : t.deriveTimes rounds symbols =
      t.deriveTimes (rounds - k) (t.deriveTimes k symbols) := by
    rw [← deriveTimes_add]
    congr 1
    omega
  rw [hlast]
  exact t.length_le_deriveTimes _ _

end Length

section Rules

variable {t : Table}

/-- The image of a symbol is empty only by a rule with an empty replacement. -/
theorem isEmpty_image (h : ∀ entry ∈ t.entries, entry.2 ≠ []) (c : CodePoint) :
    (t.image c).isEmpty = false := by
  unfold image get?
  cases hlookup : t.entries.lookup [c] with
  | none => rfl
  | some replacement =>
    obtain ⟨before, after, hentries, _⟩ := List.lookup_eq_some_iff.1 hlookup
    have hmem : ([c], replacement) ∈ t.entries := by
      rw [hentries]
      simp
    exact List.isEmpty_eq_false_iff.2 (h _ hmem)

/-- Without empty replacements nothing is ever erased. -/
theorem erasedIn_eq_zero (h : ∀ entry ∈ t.entries, entry.2 ≠ []) (rounds : Nat)
    (symbols : Loose) : t.erasedIn rounds symbols = 0 := by
  induction rounds generalizing symbols with
  | zero => rfl
  | succ rounds ih =>
    have hround : t.erased symbols = 0 := by
      rw [erased, List.countP_eq_zero]
      intro c _
      rw [isEmpty_image h c]
      exact Bool.false_ne_true
    rw [erasedIn, hround, ih]

end Rules

end Colonnade.Production.Table

import Colonnade.Proofs.Production.Erasure
import Colonnade.Proofs.Production.Growth

/-!
# Expansion as substitution

A round puts for every character of a string what the table makes of it, all at once: the characters
do not see each other, and what is put in is not read again in the same round.  So rounds go through
the pieces of a string one by one (`deriveTimes_append`), rounds after rounds are rounds
(`deriveTimes_add`), and of a table only what it makes of single characters matters
(`deriveTimes_congr`).
-/

namespace Colonnade.Production

open Text (CodePoint Loose)

namespace Table

/-- What a table makes of a symbol: its replacement, or the symbol itself when it has none. -/
def reading (t : Table) (symbol : Loose) : Loose := (t.get? symbol).getD symbol

/-- A code point becomes what the table makes of the symbol that has this one code point. -/
theorem image_eq_reading (t : Table) (c : CodePoint) : t.image c = t.reading [c] := by
  unfold image reading
  cases t.get? [c] with
  | none => rfl
  | some replacement => rfl

/-- Rounds go through two pieces of a string apart from each other. -/
theorem deriveTimes_append (t : Table) (rounds : Nat) (a b : Loose) :
    t.deriveTimes rounds (a ++ b) = t.deriveTimes rounds a ++ t.deriveTimes rounds b := by
  induction rounds generalizing a b with
  | zero => rfl
  | succ rounds ih =>
    rw [deriveTimes, derive_append]
    exact ih _ _

/-- Tables that make the same of every character expand every string in the same way. -/
theorem deriveTimes_congr {t u : Table} (h : ∀ c, t.image c = u.image c) (rounds : Nat)
    (symbols : Loose) : t.deriveTimes rounds symbols = u.deriveTimes rounds symbols := by
  have hderive (symbols : Loose) : t.derive symbols = u.derive symbols := by
    rw [derive, derive, funext h]
  induction rounds generalizing symbols with
  | zero => rfl
  | succ rounds ih =>
    rw [deriveTimes, deriveTimes, hderive]
    exact ih _

/-- A number of rounds that is not negative is always run to its end. -/
theorem expand_natCast (t : Table) (seed : Loose) (n : Nat) :
    t.expand seed n = .ok (t.deriveTimes n seed) := by
  rw [expand, roundsOf_natCast]
  rfl

/-- Expansion is substitution, again and again.  Without a round a string stays as it is, and one round
puts for every character what the table makes of it.  A string of two pieces becomes what its pieces
become.  Some rounds after others are so many rounds in all.  And tables that make the same of every
single character expand all strings in the same way, whatever they hold for other symbols. -/
theorem expand_substitutes (t : Table) :
    (∀ seed : Loose, t.expand seed 0 = .ok seed ∧
      t.expand seed 1 = .ok (seed.flatMap fun c => t.reading [c])) ∧
    (∀ (a b : Loose) (n : Nat), ∃ x y, t.expand a n = .ok x ∧ t.expand b n = .ok y ∧
      t.expand (a ++ b) n = .ok (x ++ y)) ∧
    (∀ (seed : Loose) (m n : Nat), ∃ x y, t.expand seed m = .ok x ∧ t.expand x n = .ok y ∧
      t.expand seed (m + n) = .ok y) ∧
    ∀ u : Table, (∀ c, t.reading [c] = u.reading [c]) →
      ∀ (seed : Loose) (rounds : Int), t.expand seed rounds = u.expand seed rounds := by
  refine ⟨fun seed => ⟨t.expand_natCast seed 0, ?_⟩, fun a b n => ?_, fun seed m n => ?_,
    fun u hreading seed rounds => ?_⟩
  · have hone := t.expand_natCast seed 1
    have hround : t.deriveTimes 1 seed = seed.flatMap t.image := rfl
    rw [hround, funext t.image_eq_reading] at hone
    exact hone
  · refine ⟨_, _, t.expand_natCast a n, t.expand_natCast b n, ?_⟩
    rw [expand_natCast, deriveTimes_append]
  · refine ⟨_, _, t.expand_natCast seed m, t.expand_natCast _ n, ?_⟩
    rw [← Int.natCast_add, expand_natCast, deriveTimes_add]
  · have himage (c : CodePoint) : t.image c = u.image c := by
      rw [image_eq_reading, image_eq_reading, hreading c]
    have hrounds (n : Nat) : t.deriveTimes n seed = u.deriveTimes n seed :=
      deriveTimes_congr himage n seed
    rw [expand, expand, funext hrounds]

/-- Two tables that differ in their symbols of no character and of two characters, and in a rule that
keeps its symbol. -/
theorem expand_substitutes_longer_symbols :
    let t : Table := ⟨[("F", "F+G"), ("FG", "XX"), ("G", ""), ("+", "+")]⟩
    let u : Table := ⟨[("", "Y"), ("G", ""), ("F", "F+G")]⟩
    (∀ c, t.reading [c] = u.reading [c]) ∧
      t.expand ['F', 'G', '+', 'F'] 3 = u.expand ['F', 'G', '+', 'F'] 3 := by
  intro t u
  have hreading (c : CodePoint) : t.reading [c] = u.reading [c] := by
    by_cases hF : c = 'F'
    · subst hF
      rfl
    · by_cases hG : c = 'G'
      · subst hG
        rfl
      · by_cases hplus : c = '+'
        · subst hplus
          rfl
        · -- Neither table has a rule for any other character.
          have ht : t.get? [c] = none := by
            simp [t, get?, List.lookup_eq_none_iff, Loose.ofText, Loose.ofChars, hF, hG, hplus]
          have hu : u.get? [c] = none := by
            simp [u, get?, List.lookup_eq_none_iff, Loose.ofText, Loose.ofChars, hF, hG]
          rw [reading, reading, ht, hu]
  exact ⟨hreading, (expand_substitutes t).2.2.2 u hreading _ 3⟩

end Table

end Colonnade.Production

import Colonnade.Production.Expansion
import Mathlib.Data.List.Perm.Basic

/-!
# Predicted lengths

The lengths of the strings of an L-system are predicted from a table of counts, and the strings
themselves are never built.  This file ties the two together.

Counts stand for the string that holds every character as often as it was counted.
`Counts.spread` writes that string down.  A round keeps the bond between counts and string up to
the order of the characters: `spread_derive` moves one round over the counts to one round over the
string.  The order does not matter for the next round, because a permuted string is rewritten to a
permuted string (`derive_perm`), so the bond survives any number of rounds, and the totals are the
lengths (`growth_eq_map_length`).
-/

namespace Colonnade.Production

open Text (CodePoint Loose)

namespace Counts

/-- The string that counts stand for: every character as often as it was counted. -/
def spread (counts : Counts) : Loose :=
  counts.flatMap fun entry => List.replicate entry.2 entry.1

@[simp] theorem spread_nil : spread [] = [] := rfl

@[simp] theorem spread_cons (c : CodePoint) (n : Nat) (rest : Counts) :
    spread ((c, n) :: rest) = List.replicate n c ++ spread rest := rfl

/-- The total of counts is the length of the string that they stand for. -/
theorem length_spread (counts : Counts) : counts.spread.length = counts.total := by
  induction counts with
  | nil => rfl
  | cons entry rest ih =>
    rw [spread_cons, List.length_append, List.length_replicate, ih]
    rfl

/-! ## Counting on -/

/-- Adding to the count of a character puts that many more of it into the string. -/
theorem spread_add (c : CodePoint) (n : Nat) (counts : Counts) :
    (add c n counts).spread.Perm (List.replicate n c ++ counts.spread) := by
  induction counts with
  | nil => exact List.Perm.refl _
  | cons entry rest ih =>
    obtain ⟨d, m⟩ := entry
    rw [add]
    split
    · rename_i hcd
      subst hcd
      rw [spread_cons, spread_cons, ← List.append_assoc, ← List.replicate_add, Nat.add_comm m n]
    · rw [spread_cons, spread_cons]
      exact (ih.append_left _).trans (List.perm_append_comm_assoc _ _ _)

/-- Adding to the counts of all characters of a string puts that many more of each into the string
that the counts stand for. -/
theorem spread_addAll (n : Nat) (symbols : Loose) (counts : Counts) :
    (addAll n symbols counts).spread.Perm
      (symbols.flatMap (List.replicate n) ++ counts.spread) := by
  induction symbols generalizing counts with
  | nil => exact List.Perm.refl _
  | cons c rest ih =>
    have hrest : (addAll n rest (add c n counts)).spread.Perm
        (rest.flatMap (List.replicate n) ++ (List.replicate n c ++ counts.spread)) :=
      (ih _).trans ((spread_add c n counts).append_left _)
    rw [List.flatMap_cons, List.append_assoc]
    exact hrest.trans (List.perm_append_comm_assoc _ _ _)

/-- The counts of a string stand for that string, up to the order of its characters. -/
theorem spread_ofSymbols (symbols : Loose) : (ofSymbols symbols).spread.Perm symbols := by
  have h := spread_addAll 1 symbols []
  have hone : symbols.flatMap (List.replicate 1) = symbols := List.flatMap_singleton' symbols
  rw [hone, spread_nil, List.append_nil] at h
  exact h

/-! ## One round -/

/-- Many copies of one character become its image, with every character of the image as many
times. -/
theorem derive_replicate (t : Table) (n : Nat) (c : CodePoint) :
    (t.derive (List.replicate n c)).Perm ((t.image c).flatMap (List.replicate n)) := by
  induction n with
  | zero => simp
  | succ n ih =>
    have hone : (t.image c).map (fun d => d) = t.image c := List.map_id' _
    have hsplit := List.map_append_flatMap_perm (t.image c) (fun d => d) (List.replicate n)
    rw [hone] at hsplit
    exact (ih.append_left (t.image c)).trans hsplit

/-- The counts after a round, put into counts that were made before, stand for the string after a
round beside the string before. -/
private theorem spread_derive_onto (t : Table) (counts next : Counts) :
    (counts.foldl (fun next (c, n) => addAll n (t.image c) next) next).spread.Perm
      (t.derive counts.spread ++ next.spread) := by
  induction counts generalizing next with
  | nil => exact List.Perm.refl _
  | cons entry rest ih =>
    obtain ⟨c, n⟩ := entry
    have hhead : (addAll n (t.image c) next).spread.Perm
        (t.derive (List.replicate n c) ++ next.spread) :=
      (spread_addAll n _ next).trans ((derive_replicate t n c).symm.append_right _)
    rw [List.foldl_cons, spread_cons, Table.derive_append, List.append_assoc]
    exact ((ih _).trans (hhead.append_left _)).trans (List.perm_append_comm_assoc _ _ _)

/-- One round over the counts is one round over the string that they stand for. -/
theorem spread_derive (t : Table) (counts : Counts) :
    (counts.derive t).spread.Perm (t.derive counts.spread) := by
  have h := spread_derive_onto t counts []
  rw [spread_nil, List.append_nil] at h
  exact h

end Counts

/-! ## Any number of rounds -/

namespace Table

/-- A round takes a string in another order to its result in another order. -/
theorem derive_perm (t : Table) {a b : Loose} (h : a.Perm b) :
    (t.derive a).Perm (t.derive b) :=
  h.flatMap_right t.image

/-- If counts stand for a string, then the totals after each round are the lengths of the string
after each round. -/
theorem totalsFrom_eq_map_length (t : Table) (rounds : Nat) {counts : Counts}
    {symbols : Loose} (h : counts.spread.Perm symbols) :
    t.totalsFrom rounds counts =
      (List.range rounds).map fun k => (t.deriveTimes (k + 1) symbols).length := by
  induction rounds generalizing counts symbols with
  | zero => rfl
  | succ rounds ih =>
    have hnext : (counts.derive t).spread.Perm (t.derive symbols) :=
      (Counts.spread_derive t counts).trans (t.derive_perm h)
    rw [totalsFrom, ih hnext, ← Counts.length_spread, hnext.length_eq, List.range_succ_eq_map,
      List.map_cons, List.map_map]
    rfl

/-- The predicted lengths are the lengths of the strings themselves. -/
theorem growth_eq_map_length (t : Table) (rounds : Nat) (seed : Loose) :
    t.growth rounds seed =
      (List.range (rounds + 1)).map fun k => (t.deriveTimes k seed).length := by
  rw [growth, totalsFrom_eq_map_length t rounds (Counts.spread_ofSymbols seed),
    List.range_succ_eq_map, List.map_cons, List.map_map]
  rfl

end Table

/-! ## Prediction and expansion -/

theorem roundsOf_of_neg {rounds : Int} (h : rounds < 0) : roundsOf rounds = .error ⟨rounds⟩ :=
  if_pos h

@[simp] theorem roundsOf_natCast (n : Nat) : roundsOf n = .ok n := by
  rw [roundsOf, if_neg (by omega), Int.toNat_natCast]

/-- Prediction and expansion agree.  A number of rounds that is not negative gives one length more
than there are rounds, and entry `k` is the length of the string after `k` rounds.  A negative
number is the same fault for both. -/
theorem lengths_agree_with_expand (t : Table) (seed : Loose) (rounds : Int) :
    (0 ≤ rounds → ∃ sizes, t.lengths seed rounds = .ok sizes ∧
      (sizes.length : Int) = rounds + 1 ∧
      ∀ k : Nat, (k : Int) ≤ rounds → ∃ symbols, t.expand seed k = .ok symbols ∧
        sizes[k]? = some symbols.length) ∧
    (rounds < 0 → t.lengths seed rounds = .error ⟨rounds⟩ ∧
      t.expand seed rounds = .error ⟨rounds⟩) := by
  constructor
  · intro hrounds
    obtain ⟨n, rfl⟩ := Int.eq_ofNat_of_zero_le hrounds
    refine ⟨t.growth n seed, ?_, ?_, ?_⟩
    · rw [Table.lengths, roundsOf_natCast]
      rfl
    · rw [Table.growth_eq_map_length, List.length_map, List.length_range]
      omega
    · intro k hk
      refine ⟨t.deriveTimes k seed, ?_, ?_⟩
      · rw [Table.expand, roundsOf_natCast]
        rfl
      · have hlt : k < n + 1 := by omega
        rw [Table.growth_eq_map_length, List.getElem?_map, List.getElem?_range hlt]
        rfl
  · intro hrounds
    rw [Table.lengths, Table.expand, roundsOf_of_neg hrounds]
    exact ⟨rfl, rfl⟩

/-- The agreement for a table with a rule that grows, one that erases, two that swap their symbols
and one whose symbol is never met. -/
theorem lengths_agree_with_expand_mixed :
    let t : Table := ⟨[("F", "F+G"), ("+", ""), ("G", "H"), ("H", "G"), ("FF", "GGGG")]⟩
    (0 ≤ (4 : Int) ∧ ∃ sizes, t.lengths ['F', 'F'] 4 = .ok sizes ∧ (sizes.length : Int) = 4 + 1 ∧
      ∀ k : Nat, (k : Int) ≤ 4 → ∃ symbols, t.expand ['F', 'F'] k = .ok symbols ∧
        sizes[k]? = some symbols.length) ∧
    ((-1 : Int) < 0 ∧ t.lengths ['F', 'F'] (-1) = .error ⟨-1⟩ ∧
      t.expand ['F', 'F'] (-1) = .error ⟨-1⟩) :=
  ⟨⟨by decide, (lengths_agree_with_expand _ _ 4).1 (by decide)⟩,
    ⟨by decide, (lengths_agree_with_expand _ _ (-1)).2 (by decide)⟩⟩

end Colonnade.Production

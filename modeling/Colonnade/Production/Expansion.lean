import Colonnade.Number.Integer
import Colonnade.Production.Table

/-!
# Expansion of symbol strings

One round replaces every symbol of a string at once.  `expand` runs a number of rounds;
`lengths` predicts how long the string is after each round from how often every symbol
occurs, without building the string.
-/

namespace Colonnade.Production

open Text (CodePoint Loose)

/-- A negative number of rounds. -/
structure NegativeRounds where
  rounds : Int
  deriving DecidableEq, Repr

/-- The wording of a negative number of rounds. -/
def NegativeRounds.message (n : NegativeRounds) : String :=
  if Number.isTooLarge n.rounds then Number.IntegerFault.message .tooLarge
  else "iterations must be >= 0, got " ++ toString n.rounds

/-- A number of rounds, if it is not negative. -/
def roundsOf (rounds : Int) : Except NegativeRounds Nat :=
  if rounds < 0 then .error ⟨rounds⟩ else .ok rounds.toNat

namespace Table

/-! ## Strings -/

/-- One round: every symbol is replaced at once. -/
def derive (t : Table) (symbols : Loose) : Loose :=
  symbols.flatMap t.image

@[simp] theorem derive_nil (t : Table) : t.derive [] = [] := rfl

theorem derive_append (t : Table) (a b : Loose) :
    t.derive (a ++ b) = t.derive a ++ t.derive b := by
  simp [derive]

/-- The string after a number of rounds. -/
def deriveTimes (t : Table) : Nat → Loose → Loose
  | 0, symbols => symbols
  | rounds + 1, symbols => t.deriveTimes rounds (t.derive symbols)

/-- The string after a number of rounds, which must not be negative. -/
def expand (t : Table) (seed : Loose) (rounds : Int) : Except NegativeRounds Loose :=
  (roundsOf rounds).map fun n => t.deriveTimes n seed

end Table

/-! ## Counts -/

/-- How often symbols occur, in order of first occurrence. -/
abbrev Counts := List (CodePoint × Nat)

namespace Counts

/-- Counts with `n` more of a symbol. -/
def add (c : CodePoint) (n : Nat) : Counts → Counts
  | [] => [(c, n)]
  | (d, m) :: rest => if c = d then (d, m + n) :: rest else (d, m) :: add c n rest

/-- The counts of a string. -/
def ofSymbols (symbols : Loose) : Counts :=
  symbols.foldl (fun counts c => add c 1 counts) []

/-- How many symbols there are in all. -/
def total (counts : Counts) : Nat :=
  (counts.map Prod.snd).foldr (· + ·) 0

/-- Counts with `n` more of every symbol of a string. -/
def addAll (n : Nat) (symbols : Loose) (counts : Counts) : Counts :=
  symbols.foldl (fun counts c => add c n counts) counts

/-- The counts after one round. -/
def derive (t : Table) (counts : Counts) : Counts :=
  counts.foldl (fun next (c, n) => addAll n (t.image c) next) []

end Counts

namespace Table

/-- The totals after each of a number of rounds. -/
def totalsFrom (t : Table) : Nat → Counts → List Nat
  | 0, _ => []
  | rounds + 1, counts =>
    let next := counts.derive t
    next.total :: t.totalsFrom rounds next

/-- The predicted length before the first round and after each of a number of rounds. -/
def growth (t : Table) (rounds : Nat) (seed : Loose) : List Nat :=
  seed.length :: t.totalsFrom rounds (.ofSymbols seed)

/-- The predicted lengths for a number of rounds, which must not be negative. -/
def lengths (t : Table) (seed : Loose) (rounds : Int) : Except NegativeRounds (List Nat) :=
  (roundsOf rounds).map fun n => t.growth n seed

end Table

end Colonnade.Production

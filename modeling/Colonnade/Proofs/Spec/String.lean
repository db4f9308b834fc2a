import Colonnade.Proofs.Production.Growth
import Colonnade.Proofs.Spec.Policy
import Colonnade.Proofs.Warning.Matching

/-!
# The string of a pillar

Whatever the policy, there is one string that the rules of a pillar make of its seed: `string?`.
Generation and inspection each take it apart in their own order of steps, table first, and each may
end before it is made.  The lemmas here say what the steps return, when they do, in terms of the
parameters of the pillar, and that what they make is this string (`string?_eq_some`).
-/

namespace Colonnade

open Text (Loose)

open Report

/-! ## Tables of rules -/

namespace Production.Table

variable {ε : Type}

/-- Without a policy that ends it, adding rules to a table returns one. -/
theorem exists_extend_eq_ok (t : Table) (rules : List Rule) :
    ∃ u, ((t.extend rules : Report ε Table).run .permissive).result = .ok u := by
  induction rules generalizing t with
  | nil => exact ⟨t, rfl⟩
  | cons rule rest ih =>
    rw [extend]
    split
    · obtain ⟨u, hu⟩ := ih t
      exact ⟨u, result_bind_eq_ok_iff.2 ⟨(), rfl, hu⟩⟩
    · exact ih _

/-- A table of rules warns of repeated rules and of nothing else. -/
theorem code_of_mem_warnings_extend {policy : Policy} {t : Table} {rules : List Rule} {w : Warning}
    (hw : w ∈ ((t.extend rules : Report ε Table).run policy).warnings) :
    w.code = .duplicateRuleSymbol := by
  induction rules generalizing t with
  | nil => exact absurd hw List.not_mem_nil
  | cons rule rest ih =>
    rw [extend] at hw
    split at hw
    · rcases mem_warnings_bind hw with hw | ⟨_, hw⟩
      · rw [eq_of_mem_warnings_warn hw]
        rfl
      · exact ih hw
    · exact ih hw

end Production.Table

namespace Pillar

variable {p : Pillar} {policy : Policy}

/-! ## Steps that return -/

theorem result_need_eq_ok_iff {α : Type} {use : Unset} {value : Option α} {a : α} :
    ((need use value).run policy).result = .ok a ↔ value = some a := by
  cases value with
  | none => exact ⟨fun h => absurd h result_fail_ne_ok, fun h => by cases h⟩
  | some b => rw [need, result_pure_eq_ok_iff, Option.some.injEq]

/-- A pillar grows if it has a seed and a number of rounds that is not negative. -/
theorem result_growth_eq_ok_iff {seed : Loose} {rounds : Nat} :
    (p.growth.run policy).result = .ok (seed, rounds) ↔
      ∃ iterations text, p.iterations = some iterations ∧ p.seed = some text ∧
        Production.roundsOf iterations = .ok rounds ∧ text = seed := by
  constructor
  · intro h
    obtain ⟨iterations, hiterations, h⟩ := result_bind_eq_ok_iff.1 h
    obtain ⟨n, hrounds, h⟩ := result_bind_eq_ok_iff.1 h
    obtain ⟨text, htext, h⟩ := result_bind_eq_ok_iff.1 h
    obtain ⟨rfl, rfl⟩ := Prod.mk.inj (result_pure_eq_ok_iff.1 h)
    exact ⟨iterations, text, result_need_eq_ok_iff.1 hiterations, result_need_eq_ok_iff.1 htext,
      mapError_eq_ok_iff.1 (result_ofExcept_eq_ok_iff.1 hrounds), rfl⟩
  · rintro ⟨iterations, text, hiterations, htext, hrounds, rfl⟩
    rw [growth]
    refine result_bind_eq_ok_iff.2 ⟨iterations, result_need_eq_ok_iff.2 hiterations, ?_⟩
    refine result_bind_eq_ok_iff.2 ⟨rounds,
      result_ofExcept_eq_ok_iff.2 (mapError_eq_ok_iff.2 hrounds), ?_⟩
    exact result_bind_eq_ok_iff.2 ⟨text, result_need_eq_ok_iff.2 htext, rfl⟩

/-- Growth reports nothing, so where it returns it is nothing but its value. -/
theorem growth_eq_pure {g : Loose × Nat} (h : (p.growth.run policy).result = .ok g) :
    p.growth = pure g := by
  obtain ⟨seed, rounds⟩ := g
  obtain ⟨iterations, text, hiterations, htext, hrounds, rfl⟩ := result_growth_eq_ok_iff.1 h
  rw [growth, hiterations, htext, need, pure_bind, hrounds]
  rfl

theorem symbols_eq_pure {g : Loose × Nat} (h : (p.growth.run policy).result = .ok g)
    (t : Production.Table) : p.symbols t = pure (t.deriveTimes g.2 g.1) := by
  rw [symbols, growth_eq_pure h, pure_bind]

/-! ## The string -/

/-- The string that the rules of a pillar make of its seed. -/
def string? (p : Pillar) : Option Loose := do
  let table ← (p.table.run .permissive).result.toOption
  let seed ← p.seed
  let rounds ← p.iterations
  (table.expand seed rounds).toOption

/-- A table and a growth make the string of a pillar. -/
theorem string?_eq_some {t : Production.Table} {g : Loose × Nat}
    (ht : (p.table.run policy).result = .ok t) (hg : (p.growth.run policy).result = .ok g) :
    p.string? = some (t.deriveTimes g.2 g.1) := by
  obtain ⟨seed, rounds⟩ := g
  obtain ⟨iterations, text, hiterations, htext, hrounds, rfl⟩ := result_growth_eq_ok_iff.1 hg
  have htable := p.isScripted_table.result_permissive ht
  rw [string?, htable, hiterations, htext]
  simp only [Except.toOption, Option.bind_eq_bind, Option.bind_some, Production.Table.expand,
    hrounds, Except.map]

/-- A ring is what the turtle records along the string of its pillar. -/
theorem exists_string_of_ring {ring : List Point} (h : (p.ring.run policy).result = .ok ring) :
    ∃ symbols, p.string? = some symbols ∧ ((p.points symbols).run policy).result = .ok ring := by
  rw [Pillar.ring] at h
  obtain ⟨t, ht, h⟩ := result_bind_eq_ok_iff.1 h
  obtain ⟨symbols, hsymbols, h⟩ := result_bind_eq_ok_iff.1 h
  obtain ⟨g, hg, hpure⟩ := result_bind_eq_ok_iff.1 hsymbols
  cases result_pure_eq_ok_iff.1 hpure
  exact ⟨_, string?_eq_some ht hg, h⟩

/-- The table of a pillar warns of repeated rules and of nothing else. -/
theorem code_of_mem_warnings_table {w : Warning} (hw : w ∈ (p.table.run policy).warnings) :
    w.code = .duplicateRuleSymbol := by
  rcases mem_warnings_bind hw with hw | ⟨rules, hw⟩
  · cases hrules : p.rules <;> rw [hrules] at hw <;> exact absurd hw List.not_mem_nil
  · exact Production.Table.code_of_mem_warnings_extend hw

end Pillar

end Colonnade

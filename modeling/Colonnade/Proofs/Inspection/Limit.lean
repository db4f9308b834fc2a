import Colonnade.Proofs.Inspection.Agreement
import Colonnade.Proofs.Production.Erasure

/-!
# What the limit of an inspection limits

An inspection looks at the predicted growth of an L-system before it makes a string.  It looks at the
end of the growth alone, and the strings on the way there are made as well.  So the limit holds for
the last string, and for a string on the way only up to what the rounds after it erase
(`Production.Table.StaysWithin`).  Where no rule erases anything, no string is beyond the limit.
-/

namespace Colonnade

open Text (Loose)

/-- The strings that some rounds make of a seed keep to a limit: the last one does, any other does but
for the symbols that are erased after it, and if no rule erases its symbol then all of them do. -/
structure Production.Table.StaysWithin (t : Table) (limit : Int) (rounds : Nat) (seed : Loose) :
    Prop where
  last : ((t.deriveTimes rounds seed).length : Int) ≤ limit
  between : ∀ k ≤ rounds, ((t.deriveTimes k seed).length : Int) ≤
    limit + t.erasedIn (rounds - k) (t.deriveTimes k seed)
  unerased : (∀ entry ∈ t.entries, entry.2 ≠ "") →
    ∀ k ≤ rounds, ((t.deriveTimes k seed).length : Int) ≤ limit

theorem Production.roundsOf_eq_ok_iff {iterations : Int} {rounds : Nat} :
    roundsOf iterations = .ok rounds ↔ iterations = rounds := by
  by_cases hneg : iterations < 0
  · rw [roundsOf_of_neg hneg]
    refine iff_of_false (fun h => nomatch h) ?_
    omega
  · obtain ⟨n, rfl⟩ := Int.eq_ofNat_of_zero_le (Int.not_lt.1 hneg)
    rw [roundsOf_natCast, Except.ok.injEq]
    omega

/-- A report on an L-system that was not skipped lists how long the strings on the way are, and they
keep to the limit. -/
def Inspection.Entry.StaysWithin (policy : Policy) (limit : Int) (p : Pillar) (e : Entry) : Prop :=
  p.form? = some .lsystem → e.detail.isSkipped = false →
    ∃ t seed rounds, (p.table.run policy).result = .ok t ∧ p.seed = some seed ∧
      p.iterations = some (Nat.cast rounds) ∧
      e.detail.lengths =
        (List.range (rounds + 1)).map (fun k => (t.deriveTimes k seed).length) ∧
      t.StaysWithin limit rounds seed

namespace Pillar

variable {p : Pillar} {policy : Policy} {limit : Int}

/-- A growth that does not end beyond a limit is that of strings that keep to it. -/
theorem staysWithin_of_outgrows {t : Production.Table} {rounds : Nat} {seed : Loose}
    (h : outgrows (t.growth rounds seed) limit = false) : t.StaysWithin limit rounds seed := by
  have hlast : ((t.deriveTimes rounds seed).length : Int) ≤ limit := by
    rw [outgrows_growth] at h
    exact Int.not_lt.1 (of_decide_eq_false h)
  have hbetween : ∀ k ≤ rounds, ((t.deriveTimes k seed).length : Int) ≤
      limit + t.erasedIn (rounds - k) (t.deriveTimes k seed) := by
    intro k hk
    have hlength := t.length_deriveTimes_le hk seed
    omega
  refine ⟨hlast, hbetween, ?_⟩
  intro hrules k hk
  have hlength := hbetween k hk
  rw [Production.Table.erasedIn_eq_zero hrules] at hlength
  omega

/-- What a report says of an L-system that was not skipped. -/
theorem staysWithin_of_inspect {e : Inspection.Entry}
    (h : ((p.inspect limit).run policy).result = .ok e) : e.StaysWithin policy limit p := by
  intro hform hbuilt
  rw [inspect_eq_of_lsystem hform] at h
  obtain ⟨t, ht, h⟩ := Report.result_bind_eq_ok_iff.1 h
  obtain ⟨⟨start, rounds⟩, hg, h⟩ := Report.result_bind_eq_ok_iff.1 h
  obtain ⟨detail, hdetail, h⟩ := Report.result_bind_eq_ok_iff.1 h
  cases Report.result_pure_eq_ok_iff.1 h
  obtain ⟨iterations, seed, hiterations, hseed, hrounds, rfl⟩ := result_growth_eq_ok_iff.1 hg
  rw [Production.roundsOf_eq_ok_iff.1 hrounds] at hiterations
  refine ⟨t, seed, rounds, ht, hseed, hiterations, ?_⟩
  dsimp only at hdetail hbuilt
  cases hguard : outgrows (t.growth rounds seed) limit with
  | true =>
    -- A growth beyond the limit would have been skipped.
    rw [hguard, if_pos rfl] at hdetail
    cases Report.result_pure_eq_ok_iff.1 hdetail
    cases hbuilt
  | false =>
    rw [hguard, if_neg Bool.false_ne_true] at hdetail
    obtain ⟨_, _, hdetail⟩ := Report.result_bind_eq_ok_iff.1 hdetail
    obtain ⟨_, _, hdetail⟩ := Report.result_bind_eq_ok_iff.1 hdetail
    obtain ⟨_, _, hdetail⟩ := Report.result_bind_eq_ok_iff.1 hdetail
    cases Report.result_pure_eq_ok_iff.1 hdetail
    exact ⟨t.growth_eq_map_length rounds seed, staysWithin_of_outgrows hguard⟩

end Pillar

namespace Spec

/-- However an inspection goes on, it makes strings only of a growth that does not end beyond the
limit, and these keep to it.  So do the strings of every L-system in an inspection that was not
skipped. -/
theorem inspect_stays_within (policy : Policy) (limit : Int) :
    (∀ (t : Production.Table) (rounds : Nat) (seed : Loose),
      Pillar.outgrows (t.growth rounds seed) limit = false → t.StaysWithin limit rounds seed) ∧
    ∀ (s : Spec) (selection : Option (List Loose)) (i : Inspection),
      ((s.inspect selection limit).run policy).result = .ok i →
      List.Forall₂ (fun p e => Inspection.Entry.StaysWithin policy limit p e)
        (s.pillars.filter fun p => isSelected selection p.id) i.entries := by
  refine ⟨fun t rounds seed h => Pillar.staysWithin_of_outgrows h, ?_⟩
  intro s selection i hi
  obtain ⟨entries, hentries, hpure⟩ := Report.result_bind_eq_ok_iff.1 hi
  cases Report.result_pure_eq_ok_iff.1 hpure
  exact (Report.forall₂_of_result_traverse hentries).imp fun p e he =>
    Pillar.staysWithin_of_inspect he

/-- A pillar whose string doubles from round to round and has no steps in it. -/
def thicket : Pillar :=
  { doubled with id := "t", seed := some "G", rules := some [⟨"G", "GG"⟩] }

/-- A string that is as long as the limit in the end. -/
theorem inspect_stays_within_thicket :
    (Pillar.outgrows (Production.Table.growth ⟨[("G", "GG")]⟩ 2 ['G']) 4 = false ∧
      Production.Table.StaysWithin ⟨[("G", "GG")]⟩ 4 2 ['G']) ∧
    ∃ i e, ((inspect ⟨"0.2", some "meters", [thicket]⟩ none 4).run .permissive).result = .ok i ∧
      i.entries = [e] ∧ e.detail.isSkipped = false ∧ e.StaysWithin .permissive 4 thicket := by
  obtain ⟨e, he, hbuilt⟩ : ∃ e, ((thicket.inspect 4).run .permissive).result = .ok e ∧
      e.detail.isSkipped = false := ⟨_, by rfl, rfl⟩
  have hinspect : ((inspect ⟨"0.2", some "meters", [thicket]⟩ none 4).run .permissive).result =
      .ok ⟨"0.2", 1, [e]⟩ :=
    Report.result_bind_eq_ok_iff.2 ⟨_, Report.result_traverse_eq_ok_iff.2 (.cons he .nil), rfl⟩
  have hguard : Pillar.outgrows (Production.Table.growth ⟨[("G", "GG")]⟩ 2 ['G']) 4 = false := by
    decide
  obtain ⟨hgrowth, hspec⟩ := inspect_stays_within .permissive 4
  obtain ⟨hentry, _⟩ := List.forall₂_cons.1 (hspec _ none _ hinspect)
  exact ⟨⟨hguard, hgrowth _ _ _ hguard⟩, _, e, hinspect, rfl, hbuilt, hentry⟩

/-- A pillar whose string of four symbols vanishes in its second round. -/
def vanishing : Pillar :=
  { doubled with id := "v", rules := some [⟨"F", "GGGG"⟩, ⟨"G", ""⟩] }

/-- The limit does not hold for the strings on the way: here it is three, and a string of four symbols
is made. -/
theorem not_within_vanishing :
    ∃ i e t, ((inspect ⟨"0.2", some "meters", [vanishing]⟩ none 3).run .permissive).result = .ok i ∧
      i.entries = [e] ∧ e.label = "lsystem" ∧ e.detail.isSkipped = false ∧
      (vanishing.table.run .permissive).result = .ok t ∧ vanishing.seed = some (Loose.ofText "F") ∧
      vanishing.iterations = some 2 ∧ 3 < (t.deriveTimes 1 ['F']).length := by
  obtain ⟨e, he, hlabel, hbuilt⟩ : ∃ e, ((vanishing.inspect 3).run .permissive).result = .ok e ∧
      e.label = "lsystem" ∧ e.detail.isSkipped = false := ⟨_, by rfl, rfl, rfl⟩
  have hinspect : ((inspect ⟨"0.2", some "meters", [vanishing]⟩ none 3).run .permissive).result =
      .ok ⟨"0.2", 1, [e]⟩ :=
    Report.result_bind_eq_ok_iff.2 ⟨_, Report.result_traverse_eq_ok_iff.2 (.cons he .nil), rfl⟩
  exact ⟨_, e, ⟨[("F", "GGGG"), ("G", "")]⟩, hinspect, rfl, hlabel, hbuilt, rfl, rfl, rfl, by decide⟩

end Spec

end Colonnade

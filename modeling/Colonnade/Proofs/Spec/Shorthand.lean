import Colonnade.Proofs.Production.Priority
import Colonnade.Proofs.Spec.Reading

/-!
# Rules that are written as a map

A map of rules is read as the list of its pairs (`Pillar.forall₂_of_read`), and its keys are read as
texts one by one.  Texts are read as they are, also with surrogates in them, so a map between texts
never repeats a symbol.  But bytes are read as the text that they store, and two keys that differ may
be read as the same symbol.  The second one is ignored then, with a warning, just as in a list.

Together with what becomes of any list of rules, `first_rules_count` says when the table of a
pillar's rules is the map that it is written with.
-/

namespace Colonnade

open Document (Value)
open Schema Schema.Checked
open Production

/-! ## Reading maps of rules -/

namespace Production.Rule

/-- A pair of a rule map is read as the rule of its key and its value, both read as texts. -/
theorem read_ofPair {pair : Value × Value} {rule : Rule} (h : read (ofPair pair) = .ok rule) :
    Reader.text pair.1 = .ok rule.symbol ∧ Reader.text pair.2 = .ok rule.replacement := by
  have hpairs : (ofPair pair).pairs? =
      some [(.text "symbol", pair.1), (.text "replacement", pair.2)] := rfl
  obtain ⟨_, hown, hfields⟩ := Reader.model_eq_ok_iff.1 h
  cases hpairs.symm.trans hown
  obtain ⟨_, hbuild, _⟩ := Reader.fields_eq_ok_iff.1 hfields
  obtain ⟨_, replacement, hmake, hreplacement, rfl⟩ := seq_eq_ok_iff.1 hbuild
  obtain ⟨symbol, hsymbol, rfl⟩ := map_eq_ok_iff.1 hmake
  exact ⟨inside_eq_ok_iff.1 hsymbol, inside_eq_ok_iff.1 hreplacement⟩

/-- A map of rules is read as the rules of its pairs, in order. -/
theorem forall₂_of_readAll {given : Value} {pairs : List (Value × Value)} {rules : List Rule}
    (hpairs : given.pairs? = some pairs) (h : readAll given = .ok rules) :
    List.Forall₂ (fun pair rule => Reader.text pair.1 = .ok rule.symbol ∧
      Reader.text pair.2 = .ok rule.replacement) pairs rules := by
  rw [readAll, spelledOut, hpairs] at h
  have hread := Reader.forall₂_of_all_itemsFrom h
  rw [List.forall₂_map_left_iff] at hread
  exact hread.imp fun _ _ => read_ofPair

end Production.Rule

namespace Pillar

/-- A pillar that is completed keeps the rules that it has. -/
theorem rules_of_complete {p q : Pillar} {rules : List Rule} (h : p.complete = .ok q)
    (hrules : p.rules = some rules) : q.rules = some rules := by
  rw [complete] at h
  split at h
  · cases h
  · cases h
    split
    · rw [withLSystem, hrules]
      rfl
    · exact hrules

/-- A pillar whose rules are written as a map has the rules of its pairs, in order. -/
theorem forall₂_of_read {value given : Value} {p : Pillar} {pairs : Reader.Pairs}
    {written : List (Value × Value)} (h : read value = .ok p) (hpairs : value.pairs? = some pairs)
    (hgiven : Reader.field? "rules" pairs = some given) (hwritten : given.pairs? = some written) :
    ∃ rules, p.rules = some rules ∧
      List.Forall₂ (fun pair rule => Reader.text pair.1 = .ok rule.symbol ∧
        Reader.text pair.2 = .ok rule.replacement) written rules := by
  obtain ⟨own, q, hown, _, hfields, _, hcomplete⟩ := read_eq_ok_iff.1 h
  cases hpairs.symm.trans hown
  have habsent : Reader.absent? "rules" Rule.readAll pairs = .ok q.rules :=
    (Form.forall_lsystem_parameters.1 (hfields.parameters .lsystem)).2.1
  cases hrules : q.rules with
  | none =>
    rw [hrules, Reader.absent?_eq_none_iff, hgiven] at habsent
    obtain hnone | hnull := habsent
    · cases hnone
    · cases hnull
      cases hwritten
  | some rules =>
    rw [hrules, Reader.absent?_eq_some_iff, hgiven] at habsent
    obtain ⟨_, hvalue, _, hread⟩ := habsent
    cases hvalue
    exact ⟨rules, rules_of_complete hcomplete hrules, Rule.forall₂_of_readAll hwritten hread⟩

end Pillar

/-! ## When a map is kept -/

namespace Production

/-- Symbols are repeated exactly if two keys are read as the same text. -/
theorem pairwise_text_ne_iff {written : List (Value × Value)} {rules : List Rule}
    (h : List.Forall₂ (fun pair rule => Reader.text pair.1 = .ok rule.symbol) written rules) :
    written.Pairwise (fun a b => Reader.text a.1 ≠ Reader.text b.1) ↔
      (rules.map Rule.symbol).Nodup := by
  have hsame : written.map (fun pair => Reader.text pair.1) =
      (rules.map Rule.symbol).map (pure : Text.Loose → Checked Text.Loose) := by
    rw [List.map_map, ← List.forall₂_eq_eq_eq, List.forall₂_map_left_iff,
      List.forall₂_map_right_iff]
    exact h
  rw [← List.pairwise_map (R := fun a b => a ≠ b), hsame]
  exact List.nodup_map_iff fun _ _ hok => Except.ok.inj hok

/-- Two texts that are different keys are not read as the same text. -/
theorem pairwise_text_ne_of_texts {written : List (Value × Value)}
    (htexts : ∀ pair ∈ written, ∃ s, pair.1 = .text s)
    (hkeys : written.Pairwise fun a b => Value.sameScalar a.1 b.1 = false) :
    written.Pairwise fun a b => Reader.text a.1 ≠ Reader.text b.1 := by
  refine hkeys.imp_of_mem fun {a b} ha hb hdiffer hsame => ?_
  obtain ⟨s, hs⟩ := htexts a ha
  obtain ⟨t, ht⟩ := htexts b hb
  rw [hs, ht] at hdiffer hsame
  cases hsame
  exact absurd hdiffer (by simp [Value.sameScalar])

/-- For each symbol the first rule counts.

Whatever the rules and the policy, the making of their table is ended by the first rule that repeats
a symbol, if there is one and the policy promotes it; otherwise the table holds every symbol once,
in order of first occurrence, with the replacement of its first rule.  So rules that are put in
behind the first ones for their symbols never change what strings are expanded to.

A pillar whose rules are written as a map has the pairs of the map as its rules, in order, all keys
and values read as texts.  Their table is the same pairs, without a warning under any policy, exactly
if no two keys are read as the same text; and if all keys are texts, none are. -/
theorem first_rules_count {ε : Type} :
    (∀ (rules : List Rule) (policy : Policy),
      (¬(rules.map Rule.symbol).Nodup ∧ "W02" ∈ policy.promoted ∧ "W02" ∉ policy.suppressed ∧
        ∃ before rule after first, rules = before ++ rule :: after ∧
          (before.map Rule.symbol).Nodup ∧ firstFor? before rule.symbol = some first ∧
          ((Table.ofRules rules : Report ε Table).run policy).result =
            .error (.promoted (Table.repeated rule first.replacement))) ∨
      (¬(¬(rules.map Rule.symbol).Nodup ∧ "W02" ∈ policy.promoted ∧ "W02" ∉ policy.suppressed) ∧
        ∃ t, ((Table.ofRules rules : Report ε Table).run policy).result = .ok t ∧
          t.entries.map Prod.fst = (rules.map Rule.symbol).eraseDups ∧
          ∀ symbol, t.get? symbol = (firstFor? rules symbol).map Rule.replacement)) ∧
    (∀ rules padded, Padded rules padded → ∀ p q t u,
      ((Table.ofRules rules : Report ε Table).run p).result = .ok t →
      ((Table.ofRules padded : Report ε Table).run q).result = .ok u →
      ∀ seed rounds, u.expand seed rounds = t.expand seed rounds) ∧
    ∀ value given p pairs written, Pillar.read value = .ok p → value.pairs? = some pairs →
      Reader.field? "rules" pairs = some given → given.pairs? = some written →
      ∃ rules, p.rules = some rules ∧
        List.Forall₂ (fun pair rule => Reader.text pair.1 = .ok rule.symbol ∧
          Reader.text pair.2 = .ok rule.replacement) written rules ∧
        ((∀ policy, (Table.ofRules rules : Report ε Table).run policy =
          ⟨[], .ok ⟨rules.map fun rule => (rule.symbol, rule.replacement)⟩⟩) ↔
            written.Pairwise fun a b => Reader.text a.1 ≠ Reader.text b.1) ∧
        ((∀ pair ∈ written, ∃ s, pair.1 = .text s) →
          written.Pairwise (fun a b => Value.sameScalar a.1 b.1 = false) →
          written.Pairwise fun a b => Reader.text a.1 ≠ Reader.text b.1) := by
  refine ⟨ofRules_cases, ?_, ?_⟩
  · intro rules padded hpadded p q t u ht hu seed rounds
    rw [eq_kept_of_ofRules ht, eq_kept_of_ofRules hu, kept_of_padded hpadded]
  · intro value given p pairs written hread hpairs hgiven hwritten
    obtain ⟨rules, hrules, hpairwise⟩ := Pillar.forall₂_of_read hread hpairs hgiven hwritten
    refine ⟨rules, hrules, hpairwise, ?_, pairwise_text_ne_of_texts⟩
    rw [run_ofRules_eq_iff, pairwise_text_ne_iff (hpairwise.imp fun _ _ => And.left)]

/-- A pillar with rules that are written as a map. -/
def writtenAs (rules : List (Value × Value)) : Value :=
  .map [(.text "type", .text "lsystem"), (.text "id", .text "p"), (.text "rules", .map rules)]

/-- A rule for a symbol that has one, at the end of the rules; and a map between texts, two of which
are surrogates. -/
theorem first_rules_count_texts :
    (∃ p, Pillar.read (writtenAs [(.text "F", .text "FF"), (.text [.surrogate 0xD800], .text "F"),
        (.text [.surrogate 0xD801], .text "F")]) = .ok p ∧
      p.rules =
        some [⟨"F", "FF"⟩, ⟨[.surrogate 0xD800], "F"⟩, ⟨[.surrogate 0xD801], "F"⟩] ∧
      ∀ policy, (Table.ofRules [⟨"F", "FF"⟩, ⟨[.surrogate 0xD800], "F"⟩,
          ⟨[.surrogate 0xD801], "F"⟩] : Report Empty Table).run policy =
        ⟨[], .ok ⟨[("F", "FF"), ([.surrogate 0xD800], "F"), ([.surrogate 0xD801], "F")]⟩⟩) ∧
    ∃ u, ((Table.ofRules [⟨"F", "FF"⟩, ⟨"G", "F"⟩, ⟨"F", "G"⟩] : Report Empty Table).run
        .permissive).result = .ok u ∧
      ∀ seed rounds, u.expand seed rounds =
        Table.expand ⟨[("F", "FF"), ("G", "F")]⟩ seed rounds := by
  obtain ⟨_, hpadded, hmap⟩ := first_rules_count (ε := Empty)
  have htwo : Padded [⟨"F", "FF"⟩, ⟨"G", "F"⟩] [⟨"F", "FF"⟩, ⟨"G", "F"⟩] :=
    .keep _ (.keep _ .nil)
  have hthree := htwo.extra ⟨"F", "G"⟩ (by decide)
  refine ⟨⟨_, rfl, rfl, ?_⟩, _, rfl, hpadded _ _ hthree .permissive .permissive _ _ rfl rfl⟩
  obtain ⟨rules, hrules, _, hkept, htexts⟩ :=
    hmap (writtenAs [(.text "F", .text "FF"), (.text [.surrogate 0xD800], .text "F"),
      (.text [.surrogate 0xD801], .text "F")]) _ _ _ _ rfl rfl rfl rfl
  cases hrules
  refine hkept.2 (htexts ?_ ?_)
  · intro pair hpair
    simp only [List.mem_cons, List.not_mem_nil, or_false] at hpair
    rcases hpair with rfl | rfl | rfl <;> exact ⟨_, rfl⟩
  · simp [Value.sameScalar, Text.Loose.ofText, Text.Loose.ofChars]

/-- The bytes of a text are another key than the text, but are read as it. -/
theorem map_not_kept_storedText :
    let written := [(Value.text "F", Value.text "FF"), (.bytes [70], .text "F")]
    written.Pairwise (fun a b => Value.sameScalar a.1 b.1 = false) ∧
      ∃ p, Pillar.read (writtenAs written) = .ok p ∧
        p.rules = some [⟨"F", "FF"⟩, ⟨"F", "F"⟩] ∧
        (Table.ofRules [⟨"F", "FF"⟩, ⟨"F", "F"⟩] : Report Empty Table).run .permissive =
          ⟨[Table.repeated ⟨"F", "F"⟩ "FF"], .ok ⟨[("F", "FF")]⟩⟩ :=
  ⟨by simp [Value.sameScalar], _, rfl, rfl, rfl⟩

end Production

end Colonnade

import Colonnade.Production.Expansion
import Colonnade.Proofs.Warning.Matching
import Mathlib.Data.List.Induction
import Mathlib.Data.List.Nodup

/-!
# The first rule wins

Rules are added to a table one after the other, and a rule whose symbol has a replacement already is
ignored with a warning.  What comes of a list of rules can be said without the table: the symbols,
each once and in the order in which they first occur, stand for the replacements of their first
rules (`keys_kept`, `get?_kept`), and every rule behind the first one for its symbol is warned of
(`repeatWarnings`).  The table is made rule by rule, so both are proved from what one more rule at
the end of the list does.

A rule for a symbol that has a rule before it may stand anywhere: `kept_of_padded`.
-/

namespace Colonnade.Production

open Text (Loose)

/-! ## Repeated symbols -/

/-- The first rule for a symbol. -/
def firstFor? (rules : List Rule) (symbol : Loose) : Option Rule :=
  rules.find? fun rule => rule.symbol == symbol

/-- The warning for rule `i` of a list, if there is a rule for its symbol before it. -/
def repeatWarning? (rules : List Rule) (i : Nat) : Option Warning := do
  let rule ← rules[i]?
  let first ← firstFor? (rules.take i) rule.symbol
  some (Table.repeated rule first.replacement)

/-- The warnings for all rules of a list with a rule for their symbol before them. -/
def repeatWarnings (rules : List Rule) : List Warning :=
  (List.range rules.length).filterMap (repeatWarning? rules)

theorem firstFor?_eq_none_iff {rules : List Rule} {symbol : Loose} :
    firstFor? rules symbol = none ↔ symbol ∉ rules.map Rule.symbol := by
  simp only [firstFor?, List.find?_eq_none, beq_iff_eq, List.mem_map, not_exists, not_and]

/-- One more rule is looked for behind the others. -/
theorem firstFor?_concat (rules : List Rule) (rule : Rule) (symbol : Loose) :
    firstFor? (rules ++ [rule]) symbol =
      (firstFor? rules symbol).or (if symbol = rule.symbol then some rule else none) := by
  rw [firstFor?, List.find?_append, firstFor?, List.find?_singleton]
  by_cases h : symbol = rule.symbol
  · rw [if_pos h, if_pos (beq_iff_eq.2 h.symm)]
  · rw [if_neg h, if_neg (mt beq_iff_eq.1 (Ne.symm h))]

/-- One more rule is warned of after the others. -/
theorem repeatWarnings_concat (rules : List Rule) (rule : Rule) :
    repeatWarnings (rules ++ [rule]) = repeatWarnings rules ++
      ((firstFor? rules rule.symbol).map fun first =>
        Table.repeated rule first.replacement).toList := by
  have hearlier : ∀ i ∈ List.range rules.length,
      repeatWarning? (rules ++ [rule]) i = repeatWarning? rules i := by
    intro i hi
    have hlt := List.mem_range.1 hi
    rw [repeatWarning?, repeatWarning?, List.getElem?_append_left hlt,
      List.take_append_of_le_length (by omega)]
  have hlast : repeatWarning? (rules ++ [rule]) rules.length =
      (firstFor? rules rule.symbol).map fun first => Table.repeated rule first.replacement := by
    rw [repeatWarning?, List.getElem?_concat_length, List.take_left]
    exact Option.map_eq_bind.symm
  rw [repeatWarnings, List.length_append, List.length_singleton, List.range_succ,
    List.filterMap_append, List.filterMap_congr hearlier, List.filterMap_cons, hlast]
  cases firstFor? rules rule.symbol <;> rfl

/-- Nothing is warned of if and only if all symbols are different. -/
theorem repeatWarnings_eq_nil_iff (rules : List Rule) :
    repeatWarnings rules = [] ↔ (rules.map Rule.symbol).Nodup := by
  induction rules using List.reverseRecOn with
  | nil => exact iff_of_true rfl List.nodup_nil
  | append_singleton rules rule ih =>
    rw [repeatWarnings_concat, List.append_eq_nil_iff, ih, Option.toList_eq_nil_iff,
      Option.map_eq_none_iff, firstFor?_eq_none_iff, List.map_append, List.map_singleton,
      ← List.concat_eq_append, List.nodup_concat]
    exact and_comm

/-- The first warning is for the first rule that repeats a symbol. -/
theorem exists_repeat_of_head? {rules : List Rule} {w : Warning}
    (h : (repeatWarnings rules).head? = some w) :
    ∃ before rule after first, rules = before ++ rule :: after ∧ (before.map Rule.symbol).Nodup ∧
      firstFor? before rule.symbol = some first ∧ w = Table.repeated rule first.replacement := by
  induction rules using List.reverseRecOn with
  | nil => cases h
  | append_singleton rules rule ih =>
    rw [repeatWarnings_concat, List.head?_append] at h
    cases hearlier : (repeatWarnings rules).head? with
    | some v =>
      rw [hearlier, Option.some_or] at h
      obtain ⟨before, other, after, first, hsplit, hrest⟩ := ih (hearlier.trans h)
      refine ⟨before, other, after ++ [rule], first, ?_, hrest⟩
      rw [hsplit, List.append_assoc, List.cons_append]
    | none =>
      have hnodup := (repeatWarnings_eq_nil_iff rules).1 (List.head?_eq_none_iff.1 hearlier)
      rw [hearlier, Option.none_or, Option.head?_toList] at h
      obtain ⟨first, hfirst, hw⟩ := Option.map_eq_some_iff.1 h
      exact ⟨rules, rule, [], first, rfl, hnodup, hfirst, hw.symm⟩

theorem code_of_mem_repeatWarnings {rules : List Rule} {w : Warning}
    (hw : w ∈ repeatWarnings rules) : w.code = .duplicateRuleSymbol := by
  obtain ⟨i, _, h⟩ := List.mem_filterMap.1 hw
  obtain ⟨rule, _, h⟩ := Option.bind_eq_some_iff.1 h
  obtain ⟨first, _, h⟩ := Option.bind_eq_some_iff.1 h
  cases h
  rfl

/-! ## Tables -/

/-- A table after one more rule, which goes to its end unless its symbol has a replacement. -/
def Table.accept (t : Table) (rule : Rule) : Table :=
  if (t.get? rule.symbol).isSome then t else t.push rule

/-- The table that a list of rules leaves. -/
def kept (rules : List Rule) : Table := rules.foldl Table.accept .empty

theorem kept_concat (rules : List Rule) (rule : Rule) :
    kept (rules ++ [rule]) = (kept rules).accept rule := by
  rw [kept, List.foldl_append]
  rfl

namespace Table

theorem get?_push (t : Table) (rule : Rule) (symbol : Loose) :
    (t.push rule).get? symbol =
      (t.get? symbol).or (if symbol = rule.symbol then some rule.replacement else none) := by
  rw [get?, push, List.lookup_append, List.lookup_cons, get?]
  by_cases h : symbol = rule.symbol
  · rw [if_pos h, beq_iff_eq.2 h]
  · rw [if_neg h, beq_eq_false_iff_ne.2 h]
    rfl

/-- One rule is added, or it is warned of. -/
theorem extend_singleton {ε : Type} (t : Table) (rule : Rule) :
    (t.extend [rule] : Report ε Table) =
      .script ((t.get? rule.symbol).map (repeated rule)).toList (.ok (t.accept rule)) := by
  rw [extend, accept]
  cases t.get? rule.symbol with
  | none => rfl
  | some first => rfl

/-- Rules are added one after the other. -/
theorem extend_append {ε : Type} (t : Table) (rules more : List Rule) :
    (t.extend (rules ++ more) : Report ε Table) = t.extend rules >>= fun u => u.extend more := by
  induction rules generalizing t with
  | nil => exact (Report.pure_bind t fun u => u.extend more).symm
  | cons rule rest ih =>
    rw [List.cons_append, extend, extend]
    split
    · rw [Report.bind_assoc]
      simp only [ih]
    · exact ih _

end Table

/-- In the table of a list of rules, a symbol stands for the replacement of its first rule. -/
theorem get?_kept (rules : List Rule) (symbol : Loose) :
    (kept rules).get? symbol = (firstFor? rules symbol).map Rule.replacement := by
  induction rules using List.reverseRecOn with
  | nil => rfl
  | append_singleton rules rule ih =>
    rw [kept_concat, Table.accept, firstFor?_concat, Option.map_or, ← ih]
    split
    · rename_i hrepeated
      -- The symbol that is looked up may be that of the new rule, which then has a replacement.
      by_cases hsymbol : symbol = rule.symbol
      · rw [hsymbol, Option.or_of_isSome hrepeated]
      · rw [if_neg hsymbol, Option.map_none, Option.or_none]
    · rw [Table.get?_push]
      split <;> rfl

theorem isSome_get?_kept_iff (rules : List Rule) (symbol : Loose) :
    ((kept rules).get? symbol).isSome ↔ symbol ∈ rules.map Rule.symbol := by
  rw [get?_kept, Option.isSome_map, Option.isSome_iff_ne_none, ne_eq, firstFor?_eq_none_iff,
    not_not]

/-- One more member of a list is one more without repetitions, unless the list has it already. -/
theorem eraseDups_concat {α : Type} [BEq α] [LawfulBEq α] (as : List α) (a : α) :
    (as ++ [a]).eraseDups = if a ∈ as then as.eraseDups else as.eraseDups ++ [a] := by
  rw [List.eraseDups_append, List.removeAll, List.filter_cons]
  have hone : [a].eraseDups = [a] := by
    rw [List.eraseDups_cons]
    rfl
  by_cases h : a ∈ as <;> simp [h, hone]

/-- The table of a list of rules holds every symbol once, in order of first occurrence. -/
theorem keys_kept (rules : List Rule) :
    (kept rules).entries.map Prod.fst = (rules.map Rule.symbol).eraseDups := by
  induction rules using List.reverseRecOn with
  | nil => rfl
  | append_singleton rules rule ih =>
    rw [kept_concat, Table.accept, List.map_append, List.map_singleton, eraseDups_concat]
    have hmem := isSome_get?_kept_iff rules rule.symbol
    by_cases hrepeated : rule.symbol ∈ rules.map Rule.symbol
    · rw [if_pos (hmem.2 hrepeated), if_pos hrepeated, ih]
    · rw [if_neg (mt hmem.1 hrepeated), if_neg hrepeated, Table.push, List.map_append, ih]
      rfl

/-- If no symbol is repeated, the table holds the rules as they are. -/
theorem kept_of_nodup {rules : List Rule} (h : (rules.map Rule.symbol).Nodup) :
    kept rules = ⟨rules.map fun rule => (rule.symbol, rule.replacement)⟩ := by
  induction rules using List.reverseRecOn with
  | nil => rfl
  | append_singleton rules rule ih =>
    rw [List.map_append, List.map_singleton, ← List.concat_eq_append, List.nodup_concat] at h
    have hnew : ¬((kept rules).get? rule.symbol).isSome :=
      mt (isSome_get?_kept_iff rules rule.symbol).1 h.1
    rw [kept_concat, Table.accept, if_neg hnew, ih h.2, Table.push, List.map_append]
    rfl

/-- Making a table of rules warns of the repeated symbols and returns what the rules leave. -/
theorem ofRules_eq_script {ε : Type} (rules : List Rule) :
    (Table.ofRules rules : Report ε Table) =
      .script (repeatWarnings rules) (.ok (kept rules)) := by
  induction rules using List.reverseRecOn with
  | nil => rfl
  | append_singleton rules rule ih =>
    rw [Table.ofRules] at ih ⊢
    rw [Table.extend_append, ih, repeatWarnings_concat, kept_concat]
    refine Report.script_ok_bind _ _ _ _ ?_
    rw [Table.extend_singleton, get?_kept, Option.map_map]
    rfl

/-- Where repeated symbols are promoted and not suppressed, the first one ends the making of a
table. -/
theorem run_ofRules_of_promoted {ε : Type} {rules : List Rule} {p : Policy} {w : Warning}
    (h : p.Escalates w) (hfirst : (repeatWarnings rules).head? = some w) :
    (Table.ofRules rules : Report ε Table).run p = ⟨[], .error (.promoted w)⟩ := by
  obtain ⟨later, hlater⟩ := List.head?_eq_some_iff.1 hfirst
  rw [ofRules_eq_script, hlater, Report.script_cons, Report.run_bind,
    Report.run_warn_of_escalates h]

/-- Where they are not, or where no symbol is repeated, the table is made. -/
theorem run_ofRules_of_not_promoted {ε : Type} {rules : List Rule} {p : Policy}
    (h : ∀ w ∈ repeatWarnings rules, ¬ p.Escalates w) :
    (Table.ofRules rules : Report ε Table).run p =
      ⟨p.unsuppressed (repeatWarnings rules), .ok (kept rules)⟩ := by
  have hrun := Report.run_script_append (ε := ε) h [] (.ok (kept rules))
  rw [List.append_nil] at hrun
  rw [ofRules_eq_script, hrun]
  exact congrArg (Outcome.mk · _) (List.append_nil _)

/-- Where a repeated symbol is promoted and not suppressed, the first rule that repeats one ends the
making of a table.  Otherwise there is a table, which holds every symbol once, in order of first
occurrence, with the replacement of its first rule. -/
theorem ofRules_cases {ε : Type} (rules : List Rule) (policy : Policy) :
    (¬(rules.map Rule.symbol).Nodup ∧ "W02" ∈ policy.promoted ∧ "W02" ∉ policy.suppressed ∧
      ∃ before rule after first, rules = before ++ rule :: after ∧
        (before.map Rule.symbol).Nodup ∧ firstFor? before rule.symbol = some first ∧
        ((Table.ofRules rules : Report ε Table).run policy).result =
          .error (.promoted (Table.repeated rule first.replacement))) ∨
    (¬(¬(rules.map Rule.symbol).Nodup ∧ "W02" ∈ policy.promoted ∧ "W02" ∉ policy.suppressed) ∧
      ∃ t, ((Table.ofRules rules : Report ε Table).run policy).result = .ok t ∧
        t.entries.map Prod.fst = (rules.map Rule.symbol).eraseDups ∧
        ∀ symbol, t.get? symbol = (firstFor? rules symbol).map Rule.replacement) := by
  have hescalates {w : Warning} (hw : w ∈ repeatWarnings rules) :
      policy.Escalates w ↔ "W02" ∈ policy.promoted ∧ "W02" ∉ policy.suppressed := by
    rw [Policy.Escalates, code_of_mem_repeatWarnings hw]
    rfl
  rw [← repeatWarnings_eq_nil_iff]
  by_cases h : repeatWarnings rules ≠ [] ∧ "W02" ∈ policy.promoted ∧ "W02" ∉ policy.suppressed
  · obtain ⟨hrepeated, hpolicy⟩ := h
    obtain ⟨w, later, hlist⟩ := List.exists_cons_of_ne_nil hrepeated
    have hfirst : (repeatWarnings rules).head? = some w := by rw [hlist, List.head?_cons]
    have hw : w ∈ repeatWarnings rules := List.mem_of_mem_head? hfirst
    have hrun := run_ofRules_of_promoted (ε := ε) ((hescalates hw).2 hpolicy) hfirst
    obtain ⟨before, rule, after, first, hsplit, hbefore, hkept, rfl⟩ :=
      exists_repeat_of_head? hfirst
    refine .inl ⟨hrepeated, hpolicy.1, hpolicy.2, ?_⟩
    exact ⟨before, rule, after, first, hsplit, hbefore, hkept, by rw [hrun]⟩
  · refine .inr ⟨h, kept rules, ?_, keys_kept rules, get?_kept rules⟩
    have hnone : ∀ w ∈ repeatWarnings rules, ¬ policy.Escalates w := fun w hw hstops =>
      h ⟨List.ne_nil_of_mem hw, (hescalates hw).1 hstops⟩
    rw [run_ofRules_of_not_promoted hnone]

/-- A table that is made of rules is the one that the rules leave. -/
theorem eq_kept_of_ofRules {ε : Type} {rules : List Rule} {policy : Policy} {t : Table}
    (h : ((Table.ofRules rules : Report ε Table).run policy).result = .ok t) : t = kept rules := by
  have hscripted : (Table.ofRules rules : Report ε Table).IsScripted :=
    ⟨_, _, ofRules_eq_script rules⟩
  have hrun := hscripted.result_permissive h
  rw [ofRules_eq_script, Report.run_script_permissive] at hrun
  exact (Except.ok.inj hrun).symm

/-- The table of some rules is the rules as they are, without a warning under any policy, exactly if
no symbol is repeated. -/
theorem run_ofRules_eq_iff {ε : Type} (rules : List Rule) :
    (∀ policy, (Table.ofRules rules : Report ε Table).run policy =
      ⟨[], .ok ⟨rules.map fun rule => (rule.symbol, rule.replacement)⟩⟩) ↔
      (rules.map Rule.symbol).Nodup := by
  constructor
  · intro h
    have hwarnings := congrArg Outcome.warnings (h .permissive)
    rw [ofRules_eq_script, Report.run_script_permissive] at hwarnings
    exact (repeatWarnings_eq_nil_iff rules).1 hwarnings
  · intro hnodup policy
    rw [ofRules_eq_script, (repeatWarnings_eq_nil_iff rules).2 hnodup, kept_of_nodup hnodup]
    rfl

/-! ## Rules without effect -/

/-- A list of rules, and the same list with rules put into it, each somewhere behind another rule
for its symbol. -/
inductive Padded : List Rule → List Rule → Prop
  | nil : Padded [] []
  | keep {rules padded : List Rule} (rule : Rule) (h : Padded rules padded) :
    Padded (rules ++ [rule]) (padded ++ [rule])
  | extra {rules padded : List Rule} (rule : Rule) (h : Padded rules padded)
    (defined : rule.symbol ∈ rules.map Rule.symbol) : Padded rules (padded ++ [rule])

/-- Rules for symbols that have a rule already change nothing. -/
theorem kept_of_padded {rules padded : List Rule} (h : Padded rules padded) :
    kept padded = kept rules := by
  induction h with
  | nil => rfl
  | keep rule _ ih => rw [kept_concat, kept_concat, ih]
  | @extra rules _ rule _ defined ih =>
    rw [kept_concat, ih, Table.accept, if_pos ((isSome_get?_kept_iff rules rule.symbol).2 defined)]

end Colonnade.Production

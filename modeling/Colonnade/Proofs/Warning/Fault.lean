import Colonnade.Proofs.Warning.Run

/-!
# How a run ends early

A run that ends early does so at the first of its parts that does.  For a sequence this is
`result_bind_eq_error_iff`, and for a traversal `result_traverse_eq_error_iff`: the members before
some member all return, and that member ends the run.

`Report.FaultsAre` says that a computation has no faults but those of one kind, whatever the policy.
A computation has the faults of its parts, so the lemmas follow the ways to build one.
-/

namespace Colonnade.Report

variable {ε α β : Type} {p : Policy}

/-- A sequence ends early if its first part does, or its second part after the first. -/
theorem result_bind_eq_error_iff {m : Report ε α} {next : α → Report ε β} {stop : Stop ε} :
    ((m >>= next).run p).result = .error stop ↔
      (m.run p).result = .error stop ∨
        ∃ a, (m.run p).result = .ok a ∧ ((next a).run p).result = .error stop := by
  rw [run_bind]
  rcases m.run p with ⟨warnings, cause | value⟩
  · constructor
    · intro h
      cases h
      exact .inl rfl
    · rintro (h | ⟨_, h, _⟩)
      · cases h
        rfl
      · cases h
  · constructor
    · exact fun h => .inr ⟨value, rfl, h⟩
    · rintro (h | ⟨a, h, hnext⟩)
      · cases h
      · cases h
        exact hnext

/-- A traversal ends early at the first member that does; those after it are not looked at. -/
theorem result_traverse_eq_error_iff {f : α → Report ε β} {as : List α} {stop : Stop ε} :
    ((traverse f as).run p).result = .error stop ↔
      ∃ before a after, as = before ++ a :: after ∧
        (∀ x ∈ before, ∃ b, ((f x).run p).result = .ok b) ∧
        ((f a).run p).result = .error stop := by
  induction as with
  | nil =>
    constructor
    · intro h
      cases h
    · rintro ⟨before, a, after, hsplit, _⟩
      exact absurd hsplit.symm (List.append_ne_nil_of_right_ne_nil _ (List.cons_ne_nil a after))
  | cons x rest ih =>
    have hrest (b : β) : ((traverse f rest >>= fun bs => pure (b :: bs)).run p).result =
        .error stop ↔ ((traverse f rest).run p).result = .error stop := by
      rw [result_bind_eq_error_iff]
      exact or_iff_left fun ⟨_, _, h⟩ => nomatch h
    rw [traverse, result_bind_eq_error_iff]
    simp only [hrest, ih]
    constructor
    · rintro (hx | ⟨b, hx, before, a, after, rfl, hbefore, ha⟩)
      · exact ⟨[], x, rest, rfl, fun _ h => absurd h List.not_mem_nil, hx⟩
      · exact ⟨x :: before, a, after, rfl, List.forall_mem_cons.2 ⟨⟨b, hx⟩, hbefore⟩, ha⟩
    · rintro ⟨before, a, after, hsplit, hbefore, ha⟩
      rcases List.cons_eq_append_iff.1 hsplit with ⟨rfl, h⟩ | ⟨tail, rfl, rfl⟩
      · cases h
        exact .inl ha
      · obtain ⟨⟨b, hx⟩, htail⟩ := List.forall_mem_cons.1 hbefore
        exact .inr ⟨b, hx, tail, a, after, rfl, htail, ha⟩

/-! ## Faults of one kind -/

/-- Whatever the policy, a computation has no faults but those of a kind. -/
def FaultsAre (kind : ε → Prop) (m : Report ε α) : Prop :=
  ∀ (p : Policy) (cause : ε), (m.run p).result = .error (.fault cause) → kind cause

variable {kind : ε → Prop}

theorem faultsAre_pure (value : α) : FaultsAre kind (pure value : Report ε α) := by
  intro p cause h
  cases h

theorem faultsAre_fail {cause : ε} (hcause : kind cause) :
    FaultsAre kind (fail cause : Report ε α) := by
  intro p _ h
  cases h
  exact hcause

theorem faultsAre_ofExcept {r : Except ε α} (h : ∀ cause, r = .error cause → kind cause) :
    FaultsAre kind (ofExcept r) := by
  intro p cause hrun
  obtain ⟨e, he, hfault⟩ := mapError_eq_error_iff.1 hrun
  cases hfault
  exact h _ he

theorem faultsAre_warn (w : Warning) : FaultsAre kind (warn w : Report ε Unit) := by
  intro p cause h
  rw [run_warn] at h
  split at h
  · cases h
  · split at h <;> cases h

theorem faultsAre_bind {m : Report ε α} {next : α → Report ε β} (hm : FaultsAre kind m)
    (hnext : ∀ a, FaultsAre kind (next a)) : FaultsAre kind (m >>= next) := by
  intro p cause h
  rcases result_bind_eq_error_iff.1 h with hfirst | ⟨a, _, hrest⟩
  · exact hm p cause hfirst
  · exact hnext a p cause hrest

end Colonnade.Report

import Colonnade.Proofs.Warning.Run
import Colonnade.Proofs.Warning.Script

/-!
# Computations that hinge on a condition

Without a policy, a computation hinges on a condition if it returns under it and stops with a fault
of a known kind otherwise (`Report.Hinges`).  The condition of a sequence is that of its parts, and
the condition of a traversal is that of all members, since the first member without it is the one
whose fault is seen.

What a policy adds to that is known for scripted computations: `IsScripted.cases_policy`.
-/

namespace Colonnade.Report

variable {ε α β : Type} {p : Policy}

theorem result_bind_of_ok {m : Report ε α} {next : α → Report ε β} {a : α}
    (h : (m.run p).result = .ok a) : ((m >>= next).run p).result = ((next a).run p).result := by
  rw [run_bind]
  rcases hm : m.run p with ⟨warnings, stop | value⟩
  · rw [hm] at h
    cases h
  · rw [hm] at h
    cases h
    rfl

/-- The warnings of a sequence are those of its first part and then those of the second. -/
theorem warnings_bind_of_ok {m : Report ε α} {next : α → Report ε β} {a : α}
    (h : (m.run p).result = .ok a) :
    ((m >>= next).run p).warnings = (m.run p).warnings ++ ((next a).run p).warnings := by
  rw [run_bind]
  rcases hm : m.run p with ⟨warnings, stop | value⟩
  · rw [hm] at h
    cases h
  · rw [hm] at h
    cases h
    rfl

theorem result_bind_of_error {m : Report ε α} {next : α → Report ε β} {stop : Stop ε}
    (h : (m.run p).result = .error stop) : ((m >>= next).run p).result = .error stop := by
  rw [run_bind]
  rcases hm : m.run p with ⟨warnings, cause | value⟩
  · rw [hm] at h
    cases h
    rfl
  · rw [hm] at h
    cases h

/-- Without a policy, a computation returns under a condition and stops with a fault of a certain
kind otherwise. -/
structure Hinges (m : Report ε α) (fits : Prop) (kind : ε → Prop) : Prop where
  returns : fits → ∃ a, (m.run .permissive).result = .ok a
  faults : ¬ fits → ∃ cause, (m.run .permissive).result = .error (.fault cause) ∧ kind cause

variable {fits : Prop} {kind : ε → Prop} {m : Report ε α} {next : α → Report ε β}

/-- A computation without warnings hinges on having a value. -/
theorem hinges_ofExcept {r : Except ε α} (hok : fits ↔ ∃ a, r = .ok a)
    (herror : ∀ cause, r = .error cause → kind cause) : (ofExcept r).Hinges fits kind where
  returns := fun h => by
    obtain ⟨a, ha⟩ := hok.1 h
    exact ⟨a, result_ofExcept_eq_ok_iff.2 ha⟩
  faults := fun h => by
    cases hr : r with
    | ok a => exact absurd (hok.2 ⟨a, hr⟩) h
    | error cause => exact ⟨cause, rfl, herror cause hr⟩

theorem hinges_pure (a : α) (kind : ε → Prop) : (pure a : Report ε α).Hinges True kind where
  returns := fun _ => ⟨a, rfl⟩
  faults := fun h => absurd trivial h

/-- After a step that returns, everything hinges on what follows. -/
theorem Hinges.after {a : α} (hm : (m.run .permissive).result = .ok a)
    (h : (next a).Hinges fits kind) : (m >>= next).Hinges fits kind where
  returns := by
    rw [result_bind_of_ok hm]
    exact h.returns
  faults := by
    rw [result_bind_of_ok hm]
    exact h.faults

/-- A sequence hinges on both conditions. -/
theorem Hinges.bind {more : Prop} (hm : m.Hinges fits kind)
    (hnext : ∀ a, (m.run .permissive).result = .ok a → (next a).Hinges more kind) :
    (m >>= next).Hinges (fits ∧ more) kind where
  returns := fun ⟨hfits, hmore⟩ => by
    obtain ⟨a, ha⟩ := hm.returns hfits
    rw [result_bind_of_ok ha]
    exact (hnext a ha).returns hmore
  faults := fun h => by
    -- Whichever condition is the first to be missing, its fault is the one that is seen.
    by_cases hfits : fits
    · obtain ⟨a, ha⟩ := hm.returns hfits
      rw [result_bind_of_ok ha]
      exact (hnext a ha).faults fun hmore => h ⟨hfits, hmore⟩
    · obtain ⟨cause, hcause, hkind⟩ := hm.faults hfits
      exact ⟨cause, result_bind_of_error hcause, hkind⟩

/-- A traversal hinges on the conditions of all members. -/
theorem hinges_traverse {f : α → Report ε β} {fits : α → Prop} {as : List α}
    (h : ∀ a ∈ as, (f a).Hinges (fits a) kind) :
    (traverse f as).Hinges (∀ a ∈ as, fits a) kind := by
  induction as with
  | nil =>
    have hnone : ∀ a ∈ ([] : List α), fits a := fun _ ha => absurd ha List.not_mem_nil
    exact ⟨fun _ => ⟨[], rfl⟩, fun hnot => absurd hnone hnot⟩
  | cons a rest ih =>
    have hrest := ih fun x hx => h x (List.mem_cons_of_mem a hx)
    have hall : (∀ x ∈ a :: rest, fits x) ↔ fits a ∧ (∀ x ∈ rest, fits x) ∧ True := by
      rw [List.forall_mem_cons, and_true]
    rw [hall, traverse]
    exact (h a List.mem_cons_self).bind fun b _ => hrest.bind fun bs _ => hinges_pure _ kind

/-! ## With a policy -/

/-- If some warning of a list is escalated, there is a first one. -/
theorem exists_first_escalated {warnings : List Warning}
    (h : ∃ w ∈ warnings, p.Escalates w) :
    ∃ before w after, warnings = before ++ w :: after ∧ (∀ v ∈ before, ¬ p.Escalates v) ∧
      p.Escalates w := by
  induction warnings with
  | nil =>
    obtain ⟨w, hw, _⟩ := h
    exact absurd hw List.not_mem_nil
  | cons v rest ih =>
    by_cases hv : p.Escalates v
    · exact ⟨[], v, rest, rfl, fun _ hmem => absurd hmem List.not_mem_nil, hv⟩
    · have hrest : ∃ w ∈ rest, p.Escalates w := by
        obtain ⟨w, hw, hescalates⟩ := h
        rcases List.mem_cons.1 hw with rfl | hmem
        · exact absurd hescalates hv
        · exact ⟨w, hmem, hescalates⟩
      obtain ⟨before, w, after, rfl, hbefore, hw⟩ := ih hrest
      refine ⟨v :: before, w, after, rfl, ?_, hw⟩
      intro u hu
      rcases List.mem_cons.1 hu with rfl | hmem
      · exact hv
      · exact hbefore u hmem

/-- Under a policy a scripted computation ends with an escalated warning, if it has one, and as it
does without a policy otherwise. -/
theorem IsScripted.cases_policy (h : m.IsScripted) (p : Policy) :
    ((∃ w ∈ (m.run .permissive).warnings, p.Escalates w) ∧
      ∃ w, (m.run p).result = .error (.promoted w) ∧ p.Escalates w) ∨
    ((¬ ∃ w ∈ (m.run .permissive).warnings, p.Escalates w) ∧
      (m.run p).result = (m.run .permissive).result) := by
  have hfollows := h.follows p
  by_cases hsome : ∃ w ∈ (m.run .permissive).warnings, p.Escalates w
  · obtain ⟨before, w, after, hsplit, hbefore, hw⟩ := exists_first_escalated hsome
    have hrun := hfollows.ended before w after hsplit hbefore hw
    exact .inl ⟨hsome, w, by rw [hrun], hw⟩
  · have hrun := hfollows.same fun w hw hescalates => hsome ⟨w, hw, hescalates⟩
    exact .inr ⟨hsome, by rw [hrun]⟩

/-- Where a policy promotes no warning of a scripted computation, it only leaves out those that it
suppresses. -/
theorem IsScripted.run_of_not_promoted (h : m.IsScripted)
    (hnone : ∀ w, (m.run p).result ≠ .error (.promoted w)) :
    m.run p = ⟨p.unsuppressed (m.run .permissive).warnings, (m.run .permissive).result⟩ := by
  rcases h.cases_policy p with ⟨_, w, hw, _⟩ | ⟨hquiet, _⟩
  · exact absurd hw (hnone w)
  · exact (h.follows p).same fun w hw hescalates => hquiet ⟨w, hw, hescalates⟩

end Colonnade.Report

import Colonnade.Proofs.Warning.Run
import Colonnade.Proofs.Warning.Script

/-!
# Computations that go the same way

Two computations with values of different types match (`Outcome.Matches`) if they record the same
warnings in the same order and either stop for the same cause or return values that are related.
The lemmas are those that a proof in lockstep needs: a common first step (`matches_bind_left`), a
step that only one of the two takes and that neither warns nor fails (`matches_map`).

The lemmas at the end are about one computation: where its warnings come from, and that what it
returns under some policy it returns without one (`IsScripted.result_permissive`).
-/

namespace Colonnade

variable {ε α β γ : Type}

/-- Two endings are the same up to a relation between the values that are returned. -/
inductive SameEnding (R : α → β → Prop) : Except (Stop ε) α → Except (Stop ε) β → Prop
  /-- Both stop for the same cause. -/
  | stopped (stop : Stop ε) : SameEnding R (.error stop) (.error stop)
  /-- Both return a value. -/
  | returned {a : α} {b : β} (related : R a b) : SameEnding R (.ok a) (.ok b)

/-- Two outcomes match if their warnings are the same and so are their endings, up to a relation
between the values. -/
structure Outcome.Matches (first : Outcome ε α) (R : α → β → Prop) (second : Outcome ε β) :
    Prop where
  warnings : first.warnings = second.warnings
  ending : SameEnding R first.result second.result

/-- If one of two matching computations returns, so does the other, with a related value. -/
theorem Outcome.Matches.exists_of_ok {R : α → β → Prop} {first : Outcome ε α}
    {second : Outcome ε β} (h : first.Matches R second) {a : α} (ha : first.result = .ok a) :
    ∃ b, second.result = .ok b ∧ R a b := by
  have hending := h.ending
  rw [ha] at hending
  generalize second.result = ending at hending
  cases hending with
  | returned related => exact ⟨_, rfl, related⟩

namespace Report

variable {p : Policy} {R : α → β → Prop}

/-- After a common first step, two computations match if they match on its value. -/
theorem matches_bind_left {m : Report ε γ} {first : γ → Report ε α} {second : γ → Report ε β}
    (h : ∀ c, (m.run p).result = .ok c →
      ((first c).run p).Matches R ((second c).run p)) :
    ((m >>= first).run p).Matches R ((m >>= second).run p) := by
  rw [run_bind, run_bind]
  revert h
  rcases m.run p with ⟨warnings, stop | c⟩
  · exact fun _ => ⟨rfl, .stopped stop⟩
  · intro h
    have hrest := h c rfl
    exact ⟨congrArg (warnings ++ ·) hrest.warnings, hrest.ending⟩

theorem matches_pure {a : α} {b : β} (h : R a b) :
    ((pure a : Report ε α).run p).Matches R ((pure b : Report ε β).run p) :=
  ⟨rfl, .returned h⟩

/-- A computation that goes on matches its own first step, if it matches from there on. -/
theorem matches_first {m : Report ε β} {next : β → Report ε α}
    (h : ∀ b, (m.run p).result = .ok b →
      ((next b).run p).Matches R ((pure b : Report ε β).run p)) :
    ((m >>= next).run p).Matches R (m.run p) := by
  have hmatch := matches_bind_left h
  rw [bind_pure] at hmatch
  exact hmatch

/-- A computation whose value is changed in the end matches the computation itself. -/
theorem matches_map {m : Report ε β} {f : β → α}
    (h : ∀ b, (m.run p).result = .ok b → R (f b) b) :
    ((m >>= fun b => pure (f b)).run p).Matches R (m.run p) :=
  matches_first fun b hb => matches_pure (h b hb)

/-! ## What one computation says of a run -/

/-- The warnings of a sequence are those of its parts. -/
theorem mem_warnings_bind {m : Report ε α} {next : α → Report ε β} {w : Warning}
    (h : w ∈ ((m >>= next).run p).warnings) :
    w ∈ (m.run p).warnings ∨ ∃ a, w ∈ ((next a).run p).warnings := by
  rw [run_bind] at h
  rcases hm : m.run p with ⟨warnings, stop | a⟩
  · rw [hm] at h
    exact .inl h
  · rw [hm] at h
    exact (List.mem_append.1 h).imp_right fun hrest => ⟨a, hrest⟩

theorem eq_of_mem_warnings_warn {v w : Warning} (h : w ∈ ((warn v : Report ε Unit).run p).warnings) :
    w = v := by
  rw [run_warn] at h
  split at h
  · exact absurd h List.not_mem_nil
  · split at h
    · exact absurd h List.not_mem_nil
    · exact List.mem_singleton.1 h

/-- A scripted computation that returns under some policy returns the same without one. -/
theorem IsScripted.result_permissive {m : Report ε α} (h : m.IsScripted) {a : α}
    (hrun : (m.run p).result = .ok a) : (m.run .permissive).result = .ok a := by
  obtain ⟨warnings, ending, rfl⟩ := h
  rw [run_script_permissive]
  induction warnings with
  | nil => exact hrun
  | cons w rest ih =>
    rw [script_cons] at hrun
    obtain ⟨_, _, hrest⟩ := result_bind_eq_ok_iff.1 hrun
    exact ih hrest

end Report

end Colonnade

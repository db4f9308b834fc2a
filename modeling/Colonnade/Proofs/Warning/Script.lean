import Colonnade.Warning.Report

/-!
# Computations whose warnings do not depend on the policy

A `Report` is a function of the policy, so nothing in its type keeps it from computing something
else, or warning of something else, under another policy.  `Report.script` is the computation that
cannot: it reports a fixed list of warnings one after the other and ends in a fixed way, and all
that the policy does is done by `Report.warn`.  A computation is scripted (`Report.IsScripted`) if
it is one of these.

There are two groups of results.

* Scripted computations are closed under everything that computations are built from.  The case
  that carries the others is `isScripted_bind`: the script of a computation and that of what
  follows it are joined.
* `Report.IsScripted.follows` says what a policy makes of a scripted computation, in terms of the
  run without a policy: suppressed warnings are left out, and the first promoted one ends the run.
-/

namespace Colonnade

namespace Policy

/-- A warning is escalated if its code is promoted and not suppressed. -/
def Escalates (p : Policy) (w : Warning) : Prop :=
  w.code.text ∈ p.promoted ∧ w.code.text ∉ p.suppressed

/-- The warnings of a list that are not suppressed. -/
def unsuppressed (p : Policy) (warnings : List Warning) : List Warning :=
  warnings.filter fun w => w.code.text ∉ p.suppressed

theorem drops_eq_true_iff (p : Policy) (c : Code) : p.drops c = true ↔ c.text ∈ p.suppressed :=
  List.contains_iff_mem

theorem stops_eq_true_iff (p : Policy) (w : Warning) : p.stops w.code = true ↔ p.Escalates w := by
  rw [stops, Bool.and_eq_true, List.contains_iff_mem, Bool.not_eq_true', ← Bool.not_eq_true,
    drops_eq_true_iff]
  exact and_comm

end Policy

namespace Report

variable {ε α β : Type}

/-! ## Sequencing -/

theorem pure_bind (value : α) (next : α → Report ε β) : (pure value >>= next) = next value := by
  funext p
  show (⟨[] ++ (next value p).warnings, (next value p).result⟩ : Outcome ε β) = next value p
  rw [List.nil_append]

theorem bind_pure (m : Report ε α) : (m >>= pure) = m := by
  funext p
  show (m >>= pure).run p = m.run p
  rw [run_bind]
  rcases m.run p with ⟨warnings, _ | a⟩
  · rfl
  · exact congrArg (Outcome.mk · _) (List.append_nil warnings)

theorem bind_assoc {γ : Type} (m : Report ε α) (next : α → Report ε β) (last : β → Report ε γ) :
    (m >>= next >>= last) = m >>= fun a => next a >>= last := by
  funext p
  show (m >>= next >>= last).run p = (m >>= fun a => next a >>= last).run p
  simp only [run_bind]
  rcases m.run p with ⟨first, _ | a⟩
  · rfl
  · simp only
    rcases (next a).run p with ⟨second, _ | b⟩
    · rfl
    · simp only [List.append_assoc]

/-! ## Scripts -/

/-- The computation that reports given warnings one after the other and then ends as given. -/
def script : List Warning → Except (Stop ε) α → Report ε α
  | [], ending => fun _ => ⟨[], ending⟩
  | w :: rest, ending => do
    warn w
    script rest ending

theorem script_cons (w : Warning) (rest : List Warning) (ending : Except (Stop ε) α) :
    script (w :: rest) ending = warn w >>= fun _ => script rest ending := rfl

/-- A computation is scripted if neither its warnings nor its ending depend on the policy, other
than by what reporting a warning does. -/
def IsScripted (m : Report ε α) : Prop :=
  ∃ warnings ending, m = script warnings ending

/-- A script that fails goes on with nothing. -/
theorem script_error_bind (warnings : List Warning) (stop : Stop ε) (next : α → Report ε β) :
    (script warnings (.error stop) >>= next) = script warnings (.error stop) := by
  induction warnings with
  | nil => rfl
  | cons w rest ih =>
    rw [script_cons, bind_assoc, ih, script_cons]

/-- A script that succeeds, followed by a script, is the joined script. -/
theorem script_ok_bind (first second : List Warning) (value : α) (ending : Except (Stop ε) β)
    {next : α → Report ε β} (hnext : next value = script second ending) :
    (script first (.ok value) >>= next) = script (first ++ second) ending := by
  induction first with
  | nil => exact (pure_bind value next).trans hnext
  | cons w rest ih =>
    rw [script_cons, bind_assoc, ih, List.cons_append, script_cons]

/-! ## What is scripted -/

theorem isScripted_pure (value : α) : IsScripted (pure value : Report ε α) :=
  ⟨[], .ok value, rfl⟩

theorem isScripted_fail (cause : ε) : IsScripted (fail cause : Report ε α) :=
  ⟨[], .error (.fault cause), rfl⟩

theorem isScripted_ofExcept (r : Except ε α) : IsScripted (ofExcept r) :=
  ⟨[], r.mapError Stop.fault, rfl⟩

theorem isScripted_warn (w : Warning) : IsScripted (warn w : Report ε Unit) := by
  refine ⟨[w], .ok (), ?_⟩
  funext p
  show (warn w).run p = (warn w >>= fun _ => script [] (.ok ())).run p
  rw [run_bind]
  rcases (warn w).run p with ⟨warnings, _ | _⟩
  · rfl
  · exact congrArg (Outcome.mk · _) (List.append_nil warnings).symm

/-- What follows a scripted computation may depend on its value, but not on the policy. -/
theorem isScripted_bind {m : Report ε α} {next : α → Report ε β} (hm : m.IsScripted)
    (hnext : ∀ a, (next a).IsScripted) : (m >>= next).IsScripted := by
  obtain ⟨warnings, ending, rfl⟩ := hm
  cases ending with
  | error stop => exact ⟨warnings, .error stop, script_error_bind warnings stop next⟩
  | ok value =>
    obtain ⟨more, ending, h⟩ := hnext value
    exact ⟨warnings ++ more, ending, script_ok_bind warnings more value ending h⟩

theorem isScripted_traverse {f : α → Report ε β} (hf : ∀ a, (f a).IsScripted) (as : List α) :
    (traverse f as).IsScripted := by
  induction as with
  | nil => exact isScripted_pure _
  | cons a rest ih =>
    exact isScripted_bind (hf a) fun _ => isScripted_bind ih fun _ => isScripted_pure _

/-! ## Scripts under a policy -/

/-- The permissive policy records every warning of a script. -/
theorem run_script_permissive (warnings : List Warning) (ending : Except (Stop ε) α) :
    (script warnings ending).run .permissive = ⟨warnings, ending⟩ := by
  induction warnings with
  | nil => rfl
  | cons w rest ih =>
    rw [script_cons, run_bind]
    show (⟨[w] ++ _, _⟩ : Outcome ε α) = _
    rw [ih, List.singleton_append]

/-- Reporting a warning that is not escalated records it unless it is suppressed. -/
theorem run_warn_of_not_escalates {p : Policy} {w : Warning} (h : ¬ p.Escalates w) :
    (warn w : Report ε Unit).run p = ⟨p.unsuppressed [w], .ok ()⟩ := by
  have hstops : ¬ p.stops w.code = true := fun hs => h ((p.stops_eq_true_iff w).1 hs)
  rw [run_warn, if_neg hstops]
  by_cases hdrops : p.drops w.code = true
  · have hmem := (p.drops_eq_true_iff w.code).1 hdrops
    simp [hdrops, Policy.unsuppressed, hmem]
  · have hmem : w.code.text ∉ p.suppressed := fun hm =>
      hdrops ((p.drops_eq_true_iff w.code).2 hm)
    simp [hdrops, Policy.unsuppressed, hmem]

/-- Reporting a warning that is escalated ends a computation and records nothing. -/
theorem run_warn_of_escalates {p : Policy} {w : Warning} (h : p.Escalates w) :
    (warn w : Report ε Unit).run p = ⟨[], .error (.promoted w)⟩ := by
  have hdrops : ¬ p.drops w.code = true := fun hd => h.2 ((p.drops_eq_true_iff w.code).1 hd)
  rw [run_warn, if_neg hdrops, if_pos ((p.stops_eq_true_iff w).2 h)]

/-- The part of a script before the first escalated warning records what is not suppressed, and
then the rest of the script runs. -/
theorem run_script_append {p : Policy} {before : List Warning}
    (h : ∀ w ∈ before, ¬ p.Escalates w) (after : List Warning) (ending : Except (Stop ε) α) :
    (script (before ++ after) ending).run p =
      ⟨p.unsuppressed before ++ ((script after ending).run p).warnings,
        ((script after ending).run p).result⟩ := by
  induction before with
  | nil => rfl
  | cons w rest ih =>
    have hsplit : p.unsuppressed (w :: rest) = p.unsuppressed [w] ++ p.unsuppressed rest :=
      List.filter_append [w] rest
    rw [List.cons_append, script_cons, run_bind, run_warn_of_not_escalates (h w List.mem_cons_self)]
    simp only
    rw [ih fun v hv => h v (List.mem_cons_of_mem w hv), hsplit, List.append_assoc]

/-- What a policy makes of a computation, in terms of the computation without a policy.  If no
warning is escalated, the ending is the same and the warnings are those that are not suppressed.
Otherwise the first escalated warning is the ending, and the warnings are those before it that are
not suppressed. -/
structure Follows (m : Report ε α) (p : Policy) : Prop where
  same : (∀ w ∈ (m.run .permissive).warnings, ¬ p.Escalates w) →
    m.run p = ⟨p.unsuppressed (m.run .permissive).warnings, (m.run .permissive).result⟩
  ended : ∀ before w after, (m.run .permissive).warnings = before ++ w :: after →
    (∀ v ∈ before, ¬ p.Escalates v) → p.Escalates w →
    m.run p = ⟨p.unsuppressed before, .error (.promoted w)⟩

/-- A scripted computation follows every policy. -/
theorem IsScripted.follows {m : Report ε α} (h : m.IsScripted) (p : Policy) : m.Follows p := by
  obtain ⟨warnings, ending, rfl⟩ := h
  constructor
  · intro hnone
    rw [run_script_permissive] at hnone ⊢
    have hrun := run_script_append hnone [] ending
    rw [List.append_nil] at hrun
    rw [hrun]
    exact congrArg (Outcome.mk · _) (List.append_nil _)
  · intro before w after hsplit hbefore hw
    rw [run_script_permissive] at hsplit
    change warnings = before ++ w :: after at hsplit
    have hlast : (script (w :: after) ending).run p = ⟨[], .error (.promoted w)⟩ := by
      rw [script_cons, run_bind, run_warn_of_escalates hw]
    rw [hsplit, run_script_append hbefore, hlast, List.append_nil]

end Report

end Colonnade

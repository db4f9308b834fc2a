import Colonnade.Warning.Report
import Mathlib.Data.List.Forall2

/-!
# What a successful run is made of

A computation that is built from others returns a value only if its parts do.  The lemmas here take
a successful run apart, one for each way to build a computation, so that nobody else has to open
`Report`.  They speak of the values alone, not of the warnings.  Computations that cannot warn come
first.
-/

namespace Colonnade

variable {ε δ α β : Type}

/-! ## Without warnings -/

theorem mapError_eq_ok_iff {f : ε → δ} {r : Except ε α} {a : α} :
    r.mapError f = .ok a ↔ r = .ok a := by
  cases r <;> simp [Except.mapError]

theorem except_map_eq_ok_iff {f : α → β} {r : Except ε α} {b : β} :
    r.map f = .ok b ↔ ∃ a, r = .ok a ∧ f a = b := by
  cases r <;> simp [Except.map]

theorem except_map_eq_error_iff {f : α → β} {r : Except ε α} {e : ε} :
    r.map f = .error e ↔ r = .error e := by
  cases r <;> simp [Except.map]

theorem except_bind_eq_ok_iff {r : Except ε α} {next : α → Except ε β} {b : β} :
    r >>= next = .ok b ↔ ∃ a, r = .ok a ∧ next a = .ok b := by
  cases r with
  | error e =>
    constructor
    · intro h
      cases h
    · rintro ⟨a, h, _⟩
      cases h
  | ok a => exact ⟨fun h => ⟨a, rfl, h⟩, fun ⟨_, ha, h⟩ => by cases ha; exact h⟩

theorem mapError_eq_error_iff {f : ε → δ} {r : Except ε α} {d : δ} :
    r.mapError f = .error d ↔ ∃ e, r = .error e ∧ f e = d := by
  cases r <;> simp [Except.mapError]

theorem except_bind_eq_error_iff {r : Except ε α} {next : α → Except ε β} {e : ε} :
    r >>= next = .error e ↔ r = .error e ∨ ∃ a, r = .ok a ∧ next a = .error e := by
  cases r with
  | error cause =>
    constructor
    · intro h
      cases h
      exact .inl rfl
    · rintro (h | ⟨_, h, _⟩)
      · cases h
        rfl
      · cases h
  | ok a =>
    constructor
    · exact fun h => .inr ⟨a, rfl, h⟩
    · rintro (h | ⟨b, hb, h⟩)
      · cases h
      · cases hb
        exact h

/-- Mapping over a list fails only as some member of it does. -/
theorem exists_of_mapM_eq_error {f : α → Except ε β} {as : List α} {e : ε}
    (h : as.mapM f = .error e) : ∃ a ∈ as, f a = .error e := by
  induction as with
  | nil => cases h
  | cons a rest ih =>
    rw [List.mapM_cons] at h
    rcases except_bind_eq_error_iff.1 h with ha | ⟨b, _, h⟩
    · exact ⟨a, List.mem_cons_self, ha⟩
    · rcases except_bind_eq_error_iff.1 h with hrest | ⟨_, _, h⟩
      · obtain ⟨x, hx, herror⟩ := ih hrest
        exact ⟨x, List.mem_cons_of_mem a hx, herror⟩
      · cases h

/-- Mapping over a list returns one value for every member of the list, in order. -/
theorem forall₂_of_mapM {f : α → Except ε β} {as : List α} {bs : List β}
    (h : as.mapM f = .ok bs) : List.Forall₂ (fun a b => f a = .ok b) as bs := by
  induction as generalizing bs with
  | nil =>
    cases h
    exact List.Forall₂.nil
  | cons a rest ih =>
    rw [List.mapM_cons] at h
    obtain ⟨b, hb, h⟩ := except_bind_eq_ok_iff.1 h
    obtain ⟨others, hothers, h⟩ := except_bind_eq_ok_iff.1 h
    cases h
    exact List.Forall₂.cons hb (ih hothers)

theorem mapM_eq_ok_iff {f : α → Except ε β} {as : List α} {bs : List β} :
    as.mapM f = .ok bs ↔ List.Forall₂ (fun a b => f a = .ok b) as bs := by
  refine ⟨forall₂_of_mapM, fun h => ?_⟩
  induction h with
  | nil => rfl
  | cons hfirst _ ih =>
    rw [List.mapM_cons]
    exact except_bind_eq_ok_iff.2 ⟨_, hfirst, except_bind_eq_ok_iff.2 ⟨_, ih, rfl⟩⟩

/-- A list has values one after the other exactly if every member has one. -/
theorem exists_forall₂_iff {R : α → β → Prop} {as : List α} :
    (∃ bs, List.Forall₂ R as bs) ↔ ∀ a ∈ as, ∃ b, R a b := by
  constructor
  · rintro ⟨bs, h⟩
    induction h with
    | nil => exact fun a ha => absurd ha List.not_mem_nil
    | cons hfirst _ ih =>
      intro a ha
      rcases List.mem_cons.1 ha with rfl | hrest
      · exact ⟨_, hfirst⟩
      · exact ih a hrest
  · intro h
    induction as with
    | nil => exact ⟨[], .nil⟩
    | cons a rest ih =>
      obtain ⟨b, hb⟩ := h a List.mem_cons_self
      obtain ⟨bs, hbs⟩ := ih fun x hx => h x (List.mem_cons_of_mem a hx)
      exact ⟨b :: bs, .cons hb hbs⟩

/-! ## With warnings -/

namespace Report

variable {p : Policy}

theorem result_pure_eq_ok_iff {value a : α} :
    ((pure value : Report ε α).run p).result = .ok a ↔ value = a := by
  rw [run_pure, Except.ok.injEq]

theorem result_fail_ne_ok {cause : ε} {a : α} :
    ((fail cause : Report ε α).run p).result ≠ .ok a := by
  intro h
  cases h

theorem result_ofExcept_eq_ok_iff {r : Except ε α} {a : α} :
    ((ofExcept r).run p).result = .ok a ↔ r = .ok a := by
  show r.mapError Stop.fault = .ok a ↔ r = .ok a
  exact mapError_eq_ok_iff

/-- Reporting a warning lets a run go on exactly if the policy does not promote it. -/
theorem result_warn_eq_ok_iff {w : Warning} :
    ((warn w : Report ε Unit).run p).result = .ok () ↔ p.stops w.code = false := by
  rw [run_warn]
  by_cases hdrops : p.drops w.code = true
  · rw [if_pos hdrops, Policy.stops, hdrops]
    exact ⟨fun _ => rfl, fun _ => rfl⟩
  · rw [if_neg hdrops]
    cases p.stops w.code <;> simp

/-- A sequence returns what its second part returns for the value of the first. -/
theorem result_bind_eq_ok_iff {m : Report ε α} {next : α → Report ε β} {b : β} :
    ((m >>= next).run p).result = .ok b ↔
      ∃ a, (m.run p).result = .ok a ∧ ((next a).run p).result = .ok b := by
  rw [run_bind]
  rcases m.run p with ⟨warnings, stop | value⟩
  · constructor
    · intro h
      cases h
    · rintro ⟨a, h, _⟩
      cases h
  · constructor
    · exact fun h => ⟨value, rfl, h⟩
    · rintro ⟨a, h, hnext⟩
      cases h
      exact hnext

/-- A traversal returns one value for every member of the list, in order. -/
theorem forall₂_of_result_traverse {f : α → Report ε β} {as : List α} {bs : List β}
    (h : ((traverse f as).run p).result = .ok bs) :
    List.Forall₂ (fun a b => ((f a).run p).result = .ok b) as bs := by
  induction as generalizing bs with
  | nil =>
    cases result_pure_eq_ok_iff.1 h
    exact List.Forall₂.nil
  | cons a rest ih =>
    rw [traverse] at h
    obtain ⟨b, hb, h⟩ := result_bind_eq_ok_iff.1 h
    obtain ⟨others, hothers, h⟩ := result_bind_eq_ok_iff.1 h
    cases result_pure_eq_ok_iff.1 h
    exact List.Forall₂.cons hb (ih hothers)

/-- A traversal returns some values exactly if its members do, one after the other. -/
theorem result_traverse_eq_ok_iff {f : α → Report ε β} {as : List α} {bs : List β} :
    ((traverse f as).run p).result = .ok bs ↔
      List.Forall₂ (fun a b => ((f a).run p).result = .ok b) as bs := by
  refine ⟨forall₂_of_result_traverse, fun h => ?_⟩
  induction h with
  | nil => rfl
  | cons hfirst _ ih =>
    exact result_bind_eq_ok_iff.2 ⟨_, hfirst, result_bind_eq_ok_iff.2 ⟨_, ih, rfl⟩⟩

end Report

end Colonnade

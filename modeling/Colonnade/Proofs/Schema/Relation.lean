import Colonnade.Proofs.Schema.Reader

/-!
# Two readings side by side

Two documents that differ in a few fields are read by the same readers.  `Checked.Relates` says that
both readings succeed, with values that are related, or that both find the same problems.  Relations
of the parts make a relation of the whole, one lemma for each way to combine readers, so two
readings are compared field by field.

The pairs of the two maps are compared here too: a pair that is put into a map changes what is found
under its own name and nothing else.
-/

namespace Colonnade.Schema

variable {α β γ δ : Type}

namespace Checked

/-- Values that are related, or the same problems. -/
inductive Relates (R : α → β → Prop) : Checked α → Checked β → Prop
  | ok {a : α} {b : β} (related : R a b) : Relates R (.ok a) (.ok b)
  | error (problems : List Problem) : Relates R (.error problems) (.error problems)

/-- A result is related to itself. -/
theorem Relates.refl (a : Checked α) : Relates Eq a a := by
  cases a with
  | ok value => exact .ok rfl
  | error problems => exact .error problems

theorem relates_of_eq {a b : Checked α} (h : a = b) : Relates Eq a b :=
  h ▸ .refl a

theorem Relates.mono {R S : α → β → Prop} {a : Checked α} {b : Checked β} (h : Relates R a b)
    (himp : ∀ x y, R x y → S x y) : Relates S a b := by
  cases h with
  | ok related => exact .ok (himp _ _ related)
  | error problems => exact .error problems

theorem relates_map {R : γ → δ → Prop} {f : α → γ} {g : β → δ} {a : Checked α} {b : Checked β}
    (h : Relates (fun x y => R (f x) (g y)) a b) : Relates R (f <$> a) (g <$> b) := by
  cases h with
  | ok related => exact .ok related
  | error problems => exact .error problems

theorem relates_seq {S : α → β → Prop} {R : γ → δ → Prop} {f : Checked (α → γ)}
    {g : Checked (β → δ)} {a : Checked α} {b : Checked β} (ha : Relates S a b)
    (hf : Relates (fun f g => ∀ x y, S x y → R (f x) (g y)) f g) :
    Relates R (f <*> a) (g <*> b) := by
  cases hf with
  | ok hfg =>
    cases ha with
    | ok related => exact .ok (hfg _ _ related)
    | error problems => exact .error problems
  | error problems =>
    cases ha with
    | ok _ => exact .error problems
    | error more => exact .error (problems ++ more)

theorem relates_seqLeft {R : α → β → Prop} {a : Checked α} {b : Checked β} (h : Relates R a b)
    (c : Checked γ) : Relates R (a <* c) (b <* c) := by
  refine relates_seq (.refl c) (f := (fun value _ => value) <$> a)
    (g := (fun value _ => value) <$> b) (relates_map ?_)
  cases h with
  | ok related => exact .ok fun _ _ _ => related
  | error problems => exact .error problems

/-- What goes on in the same way from related values comes to the same. -/
theorem Relates.andThen_eq {R : α → β → Prop} {a : Checked α} {b : Checked β} (h : Relates R a b)
    {next : α → Checked γ} {other : β → Checked γ} (hnext : ∀ x y, R x y → next x = other y) :
    a.andThen next = b.andThen other := by
  cases h with
  | ok related => exact hnext _ _ related
  | error problems => rfl

end Checked

namespace Reader

open Checked

variable {name : String} {reader : Reader α} {pairs others before after : Pairs}
  {given : Document.Value}

/-! ## Fields with the same value -/

theorem required_congr (h : field? name pairs = field? name others) :
    required name reader pairs = required name reader others := by
  rw [required, required, h]

theorem defaulted_congr {default : α} (h : field? name pairs = field? name others) :
    defaulted name default reader pairs = defaulted name default reader others := by
  rw [defaulted, defaulted, h]

theorem absent?_congr (h : field? name pairs = field? name others) :
    absent? name reader pairs = absent? name reader others :=
  defaulted_congr h

/-! ## Pairs that are put in -/

/-- The first pair of a name counts. -/
theorem field?_append (name : String) (before after : Pairs) :
    field? name (before ++ after) = (field? name before).or (field? name after) := by
  induction before with
  | nil => rfl
  | cons pair rest ih =>
    obtain ⟨key, value⟩ := pair
    cases key with
    | text s =>
      by_cases hs : s = name
      · simp [field?, Document.Value.lookup?, hs]
      · simpa [field?, Document.Value.lookup?, hs] using ih
    | _ => exact ih

/-- A pair that is put in is found if there was no pair of its name. -/
theorem field?_insert (h : field? name (before ++ after) = none) :
    field? name (before ++ (.text name, given) :: after) = some given := by
  rw [field?_append, Option.or_eq_none_iff] at h
  rw [field?_append, h.1]
  simp [field?, Document.Value.lookup?]

/-- Under all other names the same is found. -/
theorem field?_insert_of_ne {other : String} (h : other ≠ name) :
    field? other (before ++ (.text name, given) :: after) = field? other (before ++ after) := by
  rw [field?_append, field?_append]
  simp [field?, Document.Value.lookup?, h.symm]

theorem hasLooseKey_insert :
    hasLooseKey (before ++ (.text name, given) :: after) = hasLooseKey (before ++ after) := by
  simp [hasLooseKey]

/-- The name of a field is no stray key. -/
theorem strays_insert {names : List String} (h : name ∈ names) :
    strays names (before ++ (.text name, given) :: after) = strays names (before ++ after) := by
  simp [strays, strayKey?, h]

end Reader

end Colonnade.Schema

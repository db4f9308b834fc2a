import Colonnade.Schema.Reader
import Mathlib.Data.List.Forall2

/-!
# What a reader has read

A reader is put together from readers of its parts, so a value that comes out is taken apart into
the values of the parts.  There is a lemma for each way to combine readers, which says when a value
comes out and what is known of the parts then.  Read from right to left these lemmas put a value
together again, which is how something that was written is read back.
-/

namespace Colonnade.Schema

variable {α β : Type}

namespace Checked

theorem pure_eq_ok_iff {a b : α} : (pure a : Checked α) = .ok b ↔ a = b :=
  ⟨Except.ok.inj, congrArg Except.ok⟩

theorem seq_eq_ok_iff {f : Checked (α → β)} {a : Checked α} {b : β} :
    f <*> a = .ok b ↔ ∃ g value, f = .ok g ∧ a = .ok value ∧ g value = b :=
  apply_eq_ok_iff f a b

theorem map_eq_ok_iff {f : α → β} {a : Checked α} {b : β} :
    f <$> a = .ok b ↔ ∃ value, a = .ok value ∧ f value = b := by
  refine (apply_eq_ok_iff (pure f) a b).trans ⟨?_, ?_⟩
  · rintro ⟨_, value, hpure, hvalue, rfl⟩
    cases hpure
    exact ⟨value, hvalue, rfl⟩
  · rintro ⟨value, hvalue, rfl⟩
    exact ⟨f, value, rfl, hvalue, rfl⟩

theorem seqLeft_eq_ok_iff {a : Checked α} {b : Checked β} {value : α} :
    a <* b = .ok value ↔ a = .ok value ∧ ∃ other, b = .ok other := by
  refine (seq_eq_ok_iff (f := (fun value _ => value) <$> a) (a := b)).trans ⟨?_, ?_⟩
  · rintro ⟨_, other, hkept, hother, rfl⟩
    obtain ⟨value, hvalue, rfl⟩ := map_eq_ok_iff.1 hkept
    exact ⟨hvalue, other, hother⟩
  · rintro ⟨rfl, other, hother⟩
    exact ⟨_, other, rfl, hother, rfl⟩

theorem inside_eq_ok_iff {place : Place} {a : Checked α} {value : α} :
    a.inside place = .ok value ↔ a = .ok value := by
  cases a with
  | ok own => rfl
  | error problems => exact iff_of_false (fun h => nomatch h) fun h => nomatch h

theorem andThen_eq_ok_iff {a : Checked α} {next : α → Checked β} {b : β} :
    a.andThen next = .ok b ↔ ∃ value, a = .ok value ∧ next value = .ok b := by
  cases a with
  | error problems => exact iff_of_false (fun h => nomatch h) fun ⟨_, h, _⟩ => nomatch h
  | ok value => exact ⟨fun h => ⟨value, rfl, h⟩, fun ⟨_, hvalue, h⟩ => by cases hvalue; exact h⟩

end Checked

namespace Reader

open Checked

variable {name : String} {reader : Reader α} {pairs : Pairs}

/-! ## Lists -/

/-- Members of a list are read one by one, in order. -/
theorem forall₂_of_all_itemsFrom {position : Nat} {items : List Document.Value} {values : List α}
    (h : all (itemsFrom reader position items) = .ok values) :
    List.Forall₂ (fun item value => reader item = .ok value) items values := by
  induction items generalizing position values with
  | nil =>
    cases h
    exact .nil
  | cons item rest ih =>
    obtain ⟨_, others, hfirst, hothers, rfl⟩ := seq_eq_ok_iff.1 h
    obtain ⟨value, hvalue, rfl⟩ := map_eq_ok_iff.1 hfirst
    exact .cons (inside_eq_ok_iff.1 hvalue) (ih hothers)

/-- What is written member by member is read as a list again. -/
theorem all_itemsFrom_map {write : α → Document.Value} {values : List α}
    (h : ∀ value ∈ values, reader (write value) = .ok value) (position : Nat) :
    all (itemsFrom reader position (values.map write)) = .ok values := by
  induction values generalizing position with
  | nil => rfl
  | cons value rest ih =>
    have hfirst : (reader (write value)).inside (.item position) = .ok value :=
      inside_eq_ok_iff.2 (h value List.mem_cons_self)
    have hrest :=
      ih (fun other hother => h other (List.mem_cons_of_mem value hother)) (position + 1)
    rw [List.map_cons, itemsFrom, all, hfirst, hrest]
    rfl

/-- Every member of a list is read from some value. -/
theorem exists_of_mem_list {value : Document.Value} {values : List α}
    (h : list reader value = .ok values) : ∀ a ∈ values, ∃ item, reader item = .ok a := by
  obtain ⟨items, hall⟩ : ∃ items, all (itemsFrom reader 0 items) = .ok values := by
    rw [list] at h
    split at h
    · exact ⟨_, h⟩
    · cases h
  intro a ha
  obtain ⟨i, hi, rfl⟩ := List.getElem_of_mem ha
  have hmembers := forall₂_of_all_itemsFrom hall
  have hitem : i < items.length := hmembers.length_eq ▸ hi
  exact ⟨items[i], hmembers.get hitem hi⟩

/-! ## Fields -/

/-- A field that must be there is read if it is there and its value is read. -/
theorem required_eq_ok_iff {a : α} :
    required name reader pairs = .ok a ↔
      ∃ value, field? name pairs = some value ∧ reader value = .ok a := by
  rw [required, inside_eq_ok_iff]
  cases field? name pairs with
  | none => exact iff_of_false (fun h => nomatch h) fun ⟨_, h, _⟩ => nomatch h
  | some value => simp

/-- A field with a default is the default if it is left out, and else what its value is read as. -/
theorem defaulted_eq_ok_iff {default a : α} :
    defaulted name default reader pairs = .ok a ↔
      (field? name pairs = none ∧ default = a) ∨
        ∃ value, field? name pairs = some value ∧ reader value = .ok a := by
  rw [defaulted]
  cases field? name pairs with
  | none => simp [pure_eq_ok_iff]
  | some value => simp [inside_eq_ok_iff]

/-- A value is read as nothing exactly if it is null. -/
theorem optional_eq_none_iff {value : Document.Value} :
    optional reader value = .ok none ↔ value = .null := by
  rw [optional.eq_def]
  split
  · exact iff_of_true rfl rfl
  · rename_i hnull
    refine iff_of_false (fun h => ?_) hnull
    obtain ⟨_, _, hsome⟩ := map_eq_ok_iff.1 h
    cases hsome

theorem optional_eq_some_iff {value : Document.Value} {a : α} :
    optional reader value = .ok (some a) ↔ value ≠ .null ∧ reader value = .ok a := by
  rw [optional.eq_def]
  split
  · exact iff_of_false (fun h => nomatch h) fun h => h.1 rfl
  · rename_i hnull
    have hother : value ≠ .null := hnull
    simp [map_eq_ok_iff, hother]

/-- A field is read as nothing exactly if it is left out or null. -/
theorem absent?_eq_none_iff :
    absent? name reader pairs = .ok none ↔
      field? name pairs = none ∨ field? name pairs = some .null := by
  rw [absent?, defaulted_eq_ok_iff]
  simp [optional_eq_none_iff]

/-- A field is read as something exactly if its value is, and is not null. -/
theorem absent?_eq_some_iff {a : α} :
    absent? name reader pairs = .ok (some a) ↔
      ∃ value, field? name pairs = some value ∧ value ≠ .null ∧ reader value = .ok a := by
  rw [absent?, defaulted_eq_ok_iff]
  simp [optional_eq_some_iff]

/-! ## Models -/

/-- The fields of a model are read if all its keys are names of fields and what is built of them
has no problems. -/
theorem fields_eq_ok_iff {names : List String} {build : Pairs → Checked α} {a : α} :
    fields names build pairs = .ok a ↔
      hasLooseKey pairs = false ∧ build pairs = .ok a ∧ strays names pairs = .ok () := by
  rw [fields]
  cases hasLooseKey pairs with
  | true => exact iff_of_false (fun h => nomatch h) fun h => nomatch h.1
  | false =>
    refine (seqLeft_eq_ok_iff (a := build pairs) (b := strays names pairs)).trans ⟨?_, ?_⟩
    · rintro ⟨hbuild, ⟨⟩, hstrays⟩
      exact ⟨rfl, hbuild, hstrays⟩
    · rintro ⟨_, hbuild, hstrays⟩
      exact ⟨hbuild, (), hstrays⟩

/-- A model is read from the pairs of a map. -/
theorem model_eq_ok_iff {names : List String} {build : Pairs → Checked α} {value : Document.Value}
    {a : α} :
    model name names build value = .ok a ↔
      ∃ pairs, value.pairs? = some pairs ∧ fields names build pairs = .ok a := by
  rw [model]
  cases value.pairs? with
  | none => exact iff_of_false (fun h => nomatch h) fun ⟨_, h, _⟩ => nomatch h
  | some pairs => simp

/-! ## Texts -/

/-- What is read as a text without surrogates has none. -/
theorem unicode_eq_ok_iff {read : String → Checked α} {text : Text.Loose} {a : α} :
    unicode read text = .ok a ↔ ∃ s : String, text = s ∧ read s = .ok a := by
  rw [unicode]
  cases htext : text.text? with
  | none =>
    refine iff_of_false (fun h => nomatch h) ?_
    rintro ⟨s, rfl, _⟩
    rw [Text.Loose.text?_ofText] at htext
    cases htext
  | some s =>
    rw [Text.Loose.text?_eq_some_iff.1 htext]
    simp

/-- Only the fixed texts are read, each as what it stands for. -/
theorem exists_mem_of_oneOf {options : List (String × α)} {value : Document.Value} {a : α}
    (h : oneOf options value = .ok a) : ∃ s : String, value = .text s ∧ (s, a) ∈ options := by
  rw [oneOf.eq_def] at h
  split at h
  · obtain ⟨s, rfl, hchoice⟩ := unicode_eq_ok_iff.1 h
    rw [choice] at hchoice
    split at hchoice
    · rename_i hlookup
      cases hchoice
      obtain ⟨before, after, hsplit, _⟩ := List.lookup_eq_some_iff.1 hlookup
      refine ⟨s, rfl, ?_⟩
      rw [hsplit]
      simp
    · cases hchoice
  · cases h

end Reader

end Colonnade.Schema

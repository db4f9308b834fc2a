import Colonnade.Document.Store

/-!
# Fields of a document

A field of a document that is a map can be looked up in two ways: among the members of the map, or
among its values after the store is followed.  Both find the same field (`lookup?_map_toValue`), since
a text is a key of its own and no collection becomes one.
-/

namespace Colonnade.Document

/-- What comes out where a collection is followed: the values of a collection, or nothing. -/
inductive Value.IsCollection : Value → Prop
  | null : IsCollection .null
  | list (items : List Value) : IsCollection (.list items)
  | set (items : List Value) : IsCollection (.set items)
  | map (pairs : List (Value × Value)) : IsCollection (.map pairs)
  | orderedMap (pairs : List (Value × Value)) : IsCollection (.orderedMap pairs)

theorem Object.isCollection_toValue (o : Object) (ofNumber : Nat → Value) :
    (o.toValue ofNumber).IsCollection := by
  cases o with
  | list members => exact .list _
  | set members => exact .set _
  | map isOrdered pairs =>
    cases isOrdered with
    | true => exact .orderedMap _
    | false => exact .map _

namespace Store

/-- The value under a number is that of the collection there. -/
theorem getD_valuesTo_succ (s : Store) (depth number : Nat) (h : number < s.size) :
    (s.valuesTo (depth + 1)).getD number .null =
      (s.get number).toValue fun below => (s.valuesTo depth).getD below .null := by
  simp [valuesTo, get, Array.getD, h]

theorem isCollection_valuesTo (s : Store) (depth number : Nat) :
    ((s.valuesTo depth).getD number .null).IsCollection := by
  cases depth with
  | zero =>
    by_cases h : number < s.size
    · simp [valuesTo, Array.getD, h, Object.isCollection_toValue]
    · simp [valuesTo, Array.getD, h, Value.IsCollection.null]
  | succ depth =>
    by_cases h : number < s.size
    · rw [getD_valuesTo_succ s depth number h]
      exact Object.isCollection_toValue _ _
    · simp [valuesTo, Array.getD, h, Value.IsCollection.null]

end Store

/-- The pairs of a document that is a map, with all members followed. -/
theorem Content.exists_pairs?_unrolled {c : Content} {pairs : List (Member × Member)}
    (h : c.pairs? = some pairs) (depth : Nat) :
    ∃ below : Nat → Value, (∀ number, (below number).IsCollection) ∧
      (c.unrolled (depth + 1)).pairs? =
        some (pairs.map fun pair => (pair.1.toValue below, pair.2.toValue below)) := by
  refine ⟨fun number => (c.store.valuesTo depth).getD number .null,
    c.store.isCollection_valuesTo depth, ?_⟩
  unfold pairs? at h
  split at h
  · rename_i number hroot
    split at h
    · rename_i isOrdered found hget
      cases h
      have hsize : number < c.store.size := by
        by_cases hin : number < c.store.size
        · exact hin
        · have hnone : c.store.get number = .list [] := by simp [Store.get, Array.getD, hin]
          rw [hnone] at hget
          cases hget
      have hunrolled : c.unrolled (depth + 1) =
          (Object.map isOrdered pairs).toValue fun below =>
            (c.store.valuesTo depth).getD below .null := by
        rw [unrolled, hroot, ← hget]
        exact c.store.getD_valuesTo_succ depth number hsize
      rw [hunrolled]
      cases isOrdered <;> rfl
    · cases h
  · cases h

namespace Member

/-- A text is the same key as itself and as nothing else. -/
theorem sameKey_text_iff {m : Member} {name : String} :
    m.sameKey (.scalar 0 (.text name)) = true ↔ ∃ origin, m = .scalar origin (.text name) := by
  cases m with
  | scalar origin value =>
    cases value <;> simp [sameKey, Value.sameScalar, isNaN]
  | tuple members => simp [sameKey]
  | object number => simp [sameKey]

/-- A field is found among the values if it is found among the members. -/
theorem lookup?_map_toValue {below : Nat → Value} (hbelow : ∀ number, (below number).IsCollection)
    (name : String) (pairs : List (Member × Member)) :
    Value.lookup? name (pairs.map fun pair => (pair.1.toValue below, pair.2.toValue below)) =
      (lookup? (.scalar 0 (.text name)) pairs).map (toValue below) := by
  induction pairs with
  | nil => rfl
  | cons pair rest ih =>
    obtain ⟨key, value⟩ := pair
    by_cases hkey : key.sameKey (.scalar 0 (.text name)) = true
    · obtain ⟨origin, rfl⟩ := sameKey_text_iff.1 hkey
      simp [Value.lookup?, lookup?, toValue, hkey]
    · have hskip : lookup? (.scalar 0 (.text name)) ((key, value) :: rest) =
          lookup? (.scalar 0 (.text name)) rest := by
        simp [lookup?, hkey]
      rw [hskip, ← ih, List.map_cons]
      -- A key that is another text is passed over, and so is what is no text.
      cases key with
      | scalar origin found =>
        cases found <;> simp only [toValue, Value.lookup?]
        rename_i text
        rw [if_neg]
        rintro rfl
        exact hkey (sameKey_text_iff.2 ⟨origin, rfl⟩)
      | tuple members => simp only [toValue, Value.lookup?]
      | object number =>
        have hcollection := hbelow number
        rw [toValue]
        generalize below number = found at hcollection ⊢
        cases hcollection <;> simp only [Value.lookup?]

end Member

end Colonnade.Document

import Colonnade.Text.Loose
import Mathlib.Data.List.Infix

/-!
# Brackets that match

A turtle saves itself at `[` and goes back at `]`, so what a bracket does depends on the bracket that
it matches.  Two brackets match if the string between them is well-bracketed: no beginning of it has
more `]` than `[`, and the whole has as many of the one as of the other.

The definitions say this by counting.  The proofs read a string symbol by symbol instead and keep the
number of brackets that are open.

* `heightFrom` is that number, or nothing if a bracket is closed that was not opened.  A string is
  well-bracketed exactly if it leads from zero to zero (`wellBracketed_iff`).
* `closes` reads on from a bracket to the one that closes it (`closes_eq_true_iff`).
* `openAfter` is the height of the turtle's own reading, which takes no notice of a `]` that closes
  nothing.  What is open at the end is what can still be closed (`openAfter_pos_iff`).
-/

namespace Colonnade.Turtle

open Text (CodePoint Loose)
open Text.CodePoint (char)

/-- No beginning of a string closes more brackets than it opens, and the whole string closes as many
as it opens. -/
structure WellBracketed (symbols : Loose) : Prop where
  front_le : ∀ front, front <+: symbols → front.count (.char ']') ≤ front.count (.char '[')
  total : symbols.count (.char '[') = symbols.count (.char ']')

/-- A `[` before a string is matched by a `]` in it. -/
def HasClosing (after : Loose) : Prop :=
  ∃ inner rest, after = inner ++ char ']' :: rest ∧ WellBracketed inner

/-- A `]` behind a string is matched by a `[` in it. -/
def HasOpening (before : Loose) : Prop :=
  ∃ rest inner, before = rest ++ char '[' :: inner ∧ WellBracketed inner

/-! ## Heights -/

/-- The number of brackets that are open at the end of a string, if none is closed that was not
opened before. -/
def heightFrom : Nat → Loose → Option Nat
  | height, [] => some height
  | height, symbol :: rest =>
    if symbol = '[' then heightFrom (height + 1) rest
    else if symbol = ']' then
      match height with
      | 0 => none
      | height + 1 => heightFrom height rest
    else heightFrom height rest

section Heights

variable {height last : Nat} {symbol : CodePoint} {symbols rest : Loose}

@[simp] theorem heightFrom_nil : heightFrom height [] = some height := rfl

@[simp] theorem heightFrom_open : heightFrom height ('[' :: rest) = heightFrom (height + 1) rest :=
  rfl

@[simp] theorem heightFrom_close_zero : heightFrom 0 (']' :: rest) = none := rfl

@[simp] theorem heightFrom_close_succ :
    heightFrom (height + 1) (']' :: rest) = heightFrom height rest := rfl

theorem heightFrom_cons_of_ne (hopen : symbol ≠ '[') (hclose : symbol ≠ ']') :
    heightFrom height (symbol :: rest) = heightFrom height rest := by
  rw [heightFrom.eq_def]
  exact (if_neg hopen).trans (if_neg hclose)

/-- Heights go on from one string to the next. -/
theorem heightFrom_append (height : Nat) (a b : Loose) :
    heightFrom height (a ++ b) = (heightFrom height a).bind fun middle => heightFrom middle b := by
  induction a generalizing height with
  | nil => rfl
  | cons symbol rest ih =>
    rw [List.cons_append]
    by_cases hopen : symbol = '['
    · subst hopen
      rw [heightFrom_open, heightFrom_open, ih]
    · by_cases hclose : symbol = ']'
      · subst hclose
        cases height with
        | zero => rfl
        | succ height => rw [heightFrom_close_succ, heightFrom_close_succ, ih]
      · rw [heightFrom_cons_of_ne hopen hclose, heightFrom_cons_of_ne hopen hclose, ih]

/-- A string leads from one height to another exactly if no beginning of it goes below the ground and
the brackets of the whole make up the difference. -/
theorem heightFrom_eq_some_iff : heightFrom height symbols = some last ↔
    (∀ front, front <+: symbols → front.count (.char ']') ≤ height + front.count (.char '[')) ∧
      height + symbols.count (.char '[') = last + symbols.count (.char ']') := by
  induction symbols generalizing height with
  | nil =>
    simp only [heightFrom_nil, Option.some.injEq, List.prefix_nil, forall_eq, List.count_nil]
    omega
  | cons symbol rest ih =>
    -- A beginning of the string is empty, or it is the symbol and a beginning of the rest.
    have hfront : (∀ front, front <+: symbol :: rest →
          front.count (.char ']') ≤ height + front.count (.char '[')) ↔
        ∀ front, front <+: rest →
          (symbol :: front).count (.char ']') ≤ height + (symbol :: front).count (.char '[') := by
      constructor
      · intro h front hprefix
        exact h _ ((List.prefix_cons_inj symbol).2 hprefix)
      · intro h front hprefix
        rcases List.prefix_cons_iff.1 hprefix with rfl | ⟨tail, rfl, htail⟩
        · exact Nat.zero_le _
        · exact h tail htail
    rw [hfront]
    by_cases hopen : symbol = '['
    · subst hopen
      rw [heightFrom_open, ih]
      simp only [List.count_cons, beq_iff_eq, CodePoint.char.injEq, Char.reduceEq, if_true,
        if_false, Nat.add_zero]
      refine and_congr (forall₂_congr fun front _ => ?_) ?_
      · omega
      · omega
    · by_cases hclose : symbol = ']'
      · subst hclose
        simp only [List.count_cons, beq_iff_eq, CodePoint.char.injEq, Char.reduceEq, if_true,
          if_false, Nat.add_zero]
        cases height with
        | zero =>
          -- The first symbol goes below the ground.
          rw [heightFrom_close_zero]
          refine iff_of_false (by simp) ?_
          rintro ⟨h, _⟩
          have hfirst := h [] List.nil_prefix
          simp at hfirst
        | succ height =>
          rw [heightFrom_close_succ, ih]
          refine and_congr (forall₂_congr fun front _ => ?_) ?_
          · omega
          · omega
      · rw [heightFrom_cons_of_ne hopen hclose, ih]
        simp only [List.count_cons, beq_iff_eq, hopen, hclose, if_false, Nat.add_zero]

theorem wellBracketed_iff : WellBracketed symbols ↔ heightFrom 0 symbols = some 0 := by
  rw [heightFrom_eq_some_iff]
  simp only [Nat.zero_add]
  exact ⟨fun h => ⟨h.front_le, h.total⟩, fun h => ⟨h.1, h.2⟩⟩

/-- A well-bracketed string leads from every height back to it. -/
theorem WellBracketed.heightFrom (h : WellBracketed symbols) (height : Nat) :
    heightFrom height symbols = some height := by
  rw [heightFrom_eq_some_iff]
  constructor
  · intro front hfront
    have hle := h.front_le front hfront
    omega
  · rw [h.total]

instance : DecidablePred WellBracketed := fun _ => decidable_of_iff _ wellBracketed_iff.symm

end Heights

/-! ## The bracket that closes another -/

/-- Whether a string closes a bracket before it, when so many others have to be closed first. -/
def closes : Nat → Loose → Bool
  | _, [] => false
  | depth, symbol :: rest =>
    if symbol = '[' then closes (depth + 1) rest
    else if symbol = ']' then
      match depth with
      | 0 => true
      | depth + 1 => closes depth rest
    else closes depth rest

section Closing

variable {depth : Nat} {symbol : CodePoint} {rest after : Loose}

@[simp] theorem closes_nil : closes depth [] = false := rfl

@[simp] theorem closes_open : closes depth ('[' :: rest) = closes (depth + 1) rest := rfl

@[simp] theorem closes_zero_close : closes 0 (']' :: rest) = true := rfl

@[simp] theorem closes_succ_close : closes (depth + 1) (']' :: rest) = closes depth rest := rfl

theorem closes_cons_of_ne (hopen : symbol ≠ '[') (hclose : symbol ≠ ']') :
    closes depth (symbol :: rest) = closes depth rest := by
  rw [closes.eq_def]
  exact (if_neg hopen).trans (if_neg hclose)

/-- Where a bracket is closed, the next one inside it is closed as well. -/
theorem closes_of_closes_succ (h : closes (depth + 1) after = true) : closes depth after = true := by
  induction after generalizing depth with
  | nil => cases h
  | cons symbol rest ih =>
    by_cases hopen : symbol = '['
    · subst hopen
      rw [closes_open] at h ⊢
      exact ih h
    · by_cases hclose : symbol = ']'
      · subst hclose
        cases depth with
        | zero => rfl
        | succ depth =>
          rw [closes_succ_close] at h ⊢
          exact ih h
      · rw [closes_cons_of_ne hopen hclose] at h ⊢
        exact ih h

/-- A bracket is closed by the `]` at which the string has come down to the ground. -/
theorem closes_eq_true_iff : closes depth after = true ↔
    ∃ inner rest, after = inner ++ char ']' :: rest ∧ heightFrom depth inner = some 0 := by
  induction after generalizing depth with
  | nil => simp
  | cons symbol tail ih =>
    -- The string up to the `]` is empty, or it begins with the first symbol.
    have hsplit : (∃ inner rest, symbol :: tail = inner ++ char ']' :: rest ∧
          heightFrom depth inner = some 0) ↔
        (symbol = ']' ∧ depth = 0) ∨ ∃ inner rest, tail = inner ++ char ']' :: rest ∧
          heightFrom depth (symbol :: inner) = some 0 := by
      constructor
      · rintro ⟨inner, rest, hcons, hheight⟩
        cases inner with
        | nil =>
          rw [heightFrom_nil, Option.some.injEq] at hheight
          exact .inl ⟨(List.cons.inj hcons).1, hheight⟩
        | cons first inner =>
          obtain ⟨rfl, rfl⟩ := List.cons.inj hcons
          exact .inr ⟨inner, rest, rfl, hheight⟩
      · rintro (⟨rfl, rfl⟩ | ⟨inner, rest, rfl, hheight⟩)
        · exact ⟨[], tail, rfl, rfl⟩
        · exact ⟨symbol :: inner, rest, rfl, hheight⟩
    rw [hsplit]
    by_cases hopen : symbol = '['
    · subst hopen
      simp [ih]
    · by_cases hclose : symbol = ']'
      · subst hclose
        cases depth with
        | zero => simp
        | succ depth => simp [ih]
      · simp only [closes_cons_of_ne hopen hclose, heightFrom_cons_of_ne hopen hclose, hclose,
          false_and, false_or]
        exact ih

theorem hasClosing_iff : HasClosing after ↔ closes 0 after = true := by
  rw [closes_eq_true_iff]
  simp only [HasClosing, wellBracketed_iff]

instance : DecidablePred HasClosing := fun _ => decidable_of_iff _ hasClosing_iff.symm

end Closing

/-! ## The brackets that are open -/

/-- What a symbol does to the number of open brackets.  A `]` that closes nothing does nothing. -/
def heightAfter (height : Nat) (symbol : CodePoint) : Nat :=
  if symbol = '[' then height + 1 else if symbol = ']' then height - 1 else height

/-- How many brackets are open at the end of a string. -/
def openAfter (before : Loose) : Nat := before.foldl heightAfter 0

section Opening

variable {depth : Nat} {symbol : CodePoint} {before : Loose}

theorem openAfter_concat (before : Loose) (symbol : CodePoint) :
    openAfter (before ++ [symbol]) = heightAfter (openAfter before) symbol := by
  rw [openAfter, List.foldl_concat]
  rfl

@[simp] theorem heightAfter_open (height : Nat) : heightAfter height '[' = height + 1 := rfl

@[simp] theorem heightAfter_close (height : Nat) : heightAfter height ']' = height - 1 := rfl

theorem heightAfter_of_ne {height : Nat} (hopen : symbol ≠ '[') (hclose : symbol ≠ ']') :
    heightAfter height symbol = height := by
  rw [heightAfter, if_neg hopen, if_neg hclose]

/-- What is open at the end of a string, below so many other open brackets, is a `[` after which the
string rises by as many and never falls below. -/
theorem lt_openAfter_iff : depth < openAfter before ↔
    ∃ rest inner, before = rest ++ char '[' :: inner ∧ heightFrom 0 inner = some depth := by
  -- The last symbol decides what is open at the end, so the induction goes from the end.
  induction before using List.reverseRecOn generalizing depth with
  | nil => simp [openAfter]
  | append_singleton front symbol ih =>
    have hsplit : (∃ rest inner, front ++ [symbol] = rest ++ char '[' :: inner ∧
          heightFrom 0 inner = some depth) ↔
        (symbol = '[' ∧ depth = 0) ∨ ∃ rest inner, front = rest ++ char '[' :: inner ∧
          heightFrom 0 (inner ++ [symbol]) = some depth := by
      constructor
      · rintro ⟨rest, inner, hconcat, hheight⟩
        rcases List.eq_nil_or_concat inner with rfl | ⟨inner, final, rfl⟩
        · rw [heightFrom_nil, Option.some.injEq] at hheight
          exact .inl ⟨(List.append_inj' hconcat rfl).2 |> List.singleton_inj.1, hheight.symm⟩
        · rw [List.concat_eq_append] at hconcat hheight
          rw [← List.cons_append, ← List.append_assoc] at hconcat
          obtain ⟨rfl, hsymbol⟩ := List.append_inj' hconcat rfl
          cases hsymbol
          exact .inr ⟨rest, inner, rfl, hheight⟩
      · rintro (⟨rfl, rfl⟩ | ⟨rest, inner, rfl, hheight⟩)
        · exact ⟨front, [], rfl, rfl⟩
        · exact ⟨rest, inner ++ [symbol], by simp, hheight⟩
    rw [hsplit, openAfter_concat]
    simp only [heightFrom_append, Option.bind_eq_some_iff]
    by_cases hopen : symbol = '['
    · subst hopen
      cases depth with
      | zero => simp
      | succ depth => simp [ih]
    · by_cases hclose : symbol = ']'
      · subst hclose
        have hlast (middle : Nat) : heightFrom middle [']'] = some depth ↔ middle = depth + 1 := by
          cases middle <;> simp
        simp only [hlast, exists_eq_right, heightAfter_close, ← ih]
        simp
        omega
      · simp [heightAfter_of_ne hopen hclose, heightFrom_cons_of_ne hopen hclose, hopen, ih]

theorem hasOpening_iff : HasOpening before ↔ 0 < openAfter before := by
  rw [lt_openAfter_iff]
  simp only [HasOpening, wellBracketed_iff]

instance : DecidablePred HasOpening := fun _ => decidable_of_iff _ hasOpening_iff.symm

end Opening

end Colonnade.Turtle

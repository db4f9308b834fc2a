/-!
# Likeness of texts

Two texts are compared block by block.  The longest block of characters that occurs in both is
shared; what stands before it in both texts, and what stands behind it, is compared in the same
way.  The likeness of two texts is how much of both is shared.  Misspelled names are close to the
names they are most like.
-/

namespace Colonnade.Text

/-! ## Shared characters -/

/-- How many characters two texts have in common at their start. -/
def sharedStart : List Char → List Char → Nat
  | a :: as, b :: bs => if a = b then sharedStart as bs + 1 else 0
  | _, _ => 0

theorem sharedStart_le (a b : List Char) :
    sharedStart a b ≤ a.length ∧ sharedStart a b ≤ b.length := by
  induction a generalizing b with
  | nil => simp [sharedStart]
  | cons c a ih =>
    cases b with
    | nil => simp [sharedStart]
    | cons d b =>
      unfold sharedStart
      split
      · have h := ih b
        simp only [List.length_cons]
        omega
      · simp

/-- A block that occurs in two texts: where it starts in each of them, and its length. -/
structure Block where
  first : Nat := 0
  second : Nat := 0
  length : Nat := 0
  deriving DecidableEq, Repr

/-- The longer of two blocks, and the earlier of two that are equally long. -/
def Block.orLonger (earlier later : Block) : Block :=
  if earlier.length < later.length then later else earlier

/-- The block at every place of two texts, in the order of the places. -/
def blocks (a b : List Char) : List Block :=
  (List.range a.length).flatMap fun i =>
    (List.range b.length).map fun j => ⟨i, j, sharedStart (a.drop i) (b.drop j)⟩

/-- The longest block that occurs in two texts, and the first of several. -/
def longestBlock (a b : List Char) : Block :=
  (blocks a b).foldl Block.orLonger {}

/-- How many characters two texts share.  A depth of the length of the first text is enough,
because what is left of it beside a block is shorter. -/
def sharedWithin : Nat → List Char → List Char → Nat
  | 0, _, _ => 0
  | depth + 1, a, b =>
    let block := longestBlock a b
    if block.length = 0 then 0
    else
      sharedWithin depth (a.take block.first) (b.take block.second) + block.length +
        sharedWithin depth (a.drop (block.first + block.length))
          (b.drop (block.second + block.length))

/-! ## Close names -/

/-- How much of two texts is shared: twice this many of so many characters in all. -/
structure Likeness where
  shared : Nat
  total : Nat
  deriving DecidableEq, Repr

namespace Likeness

/-- The likeness of two texts. -/
def of (a b : List Char) : Likeness := ⟨sharedWithin a.length a b, a.length + b.length⟩

/-- Whether at least three fifths are shared. -/
def isClose (l : Likeness) : Bool := 3 * l.total ≤ 10 * l.shared

/-- Whether more is shared than elsewhere. -/
def exceeds (l m : Likeness) : Bool := m.shared * l.total < l.shared * m.total

end Likeness

/-- The likeness of a name to a word, if they are close.  When one of them is far shorter than the
other they cannot be. -/
def closeness? (word name : String) : Option Likeness :=
  let shorter := min name.length word.length
  if Likeness.isClose ⟨shorter, name.length + word.length⟩ then
    (some (Likeness.of name.toList word.toList)).filter Likeness.isClose
  else none

/-- Whether a name comes before another among those that are close to a word: it is more like the
word, or equally like it and later in order. -/
def comesFirst (a b : String × Likeness) : Bool :=
  a.2.exceeds b.2 || (!b.2.exceeds a.2 && decide (b.1 ≤ a.1))

/-- At most this many close names are given. -/
def closeLimit : Nat := 3

/-- The names that a word is most like, in rising order. -/
def closeNames (names : List String) (word : String) : List String :=
  let close := names.filterMap fun name => (closeness? word name).map fun l => (name, l)
  (((close.mergeSort comesFirst).take closeLimit).map Prod.fst).mergeSort fun a b =>
    decide (a ≤ b)

/-- Only names that are given are close. -/
theorem mem_of_mem_closeNames {names : List String} {word name : String}
    (h : name ∈ closeNames names word) : name ∈ names := by
  unfold closeNames at h
  rw [List.mem_mergeSort] at h
  obtain ⟨⟨n, l⟩, hmem, rfl⟩ := List.mem_map.1 h
  have hclose := List.mem_mergeSort.1 (List.mem_of_mem_take hmem)
  obtain ⟨m, hm, heq⟩ := List.mem_filterMap.1 hclose
  obtain ⟨l', _, hpair⟩ := Option.map_eq_some_iff.1 heq
  cases hpair
  exact hm

end Colonnade.Text

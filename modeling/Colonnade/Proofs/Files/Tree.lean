import Colonnade.Files.Tree

/-!
# Where paths lead, and what writing changes

A path that leads somewhere is followed into directories by all its names but the last, so what the
last name is makes no difference to the directory that is reached (`Tree.locate_withName`).  Writing
a file changes no directory, and so changes nothing about where paths lead
(`Tree.locate_addFile_eq_ok_iff`).
-/

namespace Colonnade.Files

namespace Path

/-- The path without its last name. -/
def parent (p : Path) : Path := { p with names := p.names.dropLast }

@[simp] theorem parent_withName (p : Path) (name : String) :
    (p.withName name).parent = p.parent := by
  simp [parent, withName]

@[simp] theorem name_withName (p : Path) (name : String) : (p.withName name).name = name := by
  simp [Path.name, withName]

/-- A path with names is its parent and its last name. -/
theorem names_eq_concat {p : Path} (h : p.names ≠ []) : p.names = p.names.dropLast ++ [p.name] := by
  rw [name, List.getLast?_eq_some_getLast h, Option.getD_some, List.dropLast_concat_getLast]

end Path

namespace Tree

variable {t : Tree} {here k l : Location}

/-! ## Following names -/

theorem follow_singleton_eq_ok_iff {name : String} : t.follow here [name] = .ok l ↔
    name.utf8ByteSize ≤ nameLimit ∧ l = here.enter name := by
  unfold follow
  split
  · simp only [reduceCtorEq, false_iff, not_and]
    omega
  · simp only [List.isEmpty_nil, if_true, Except.ok.injEq]
    constructor
    · intro h
      exact ⟨by omega, h.symm⟩
    · exact fun h => h.2.symm

theorem follow_cons_eq_ok_iff {name : String} {rest : List String} (hrest : rest ≠ []) :
    t.follow here (name :: rest) = .ok l ↔ name.utf8ByteSize ≤ nameLimit ∧
      t.isDirectory (here.enter name) = true ∧ t.follow (here.enter name) rest = .ok l := by
  have hempty : rest.isEmpty = false := by
    rw [List.isEmpty_eq_false_iff]
    exact hrest
  rw [follow]
  simp only [hempty, Bool.false_eq_true, if_false]
  split
  · simp only [reduceCtorEq, false_iff, not_and]
    omega
  · split
    · rename_i hlimit hdirectory
      simp only [hdirectory, true_and]
      exact ⟨fun h => ⟨by omega, h⟩, fun h => h.2⟩
    · rename_i hdirectory
      split <;> simp [hdirectory]

/-- Only the last step depends on the last name. -/
theorem follow_concat {init : List String} {x y : String}
    (hk : t.follow here (init ++ [x]) = .ok k) (hl : t.follow here (init ++ [y]) = .ok l) :
    ∃ dir : Location, k = dir.enter x ∧ l = dir.enter y := by
  induction init generalizing here with
  | nil =>
    exact ⟨here, (follow_singleton_eq_ok_iff.1 hk).2, (follow_singleton_eq_ok_iff.1 hl).2⟩
  | cons name rest ih =>
    rw [List.cons_append, follow_cons_eq_ok_iff (by simp)] at hk hl
    exact ih hk.2.2 hl.2.2

/-! ## Where paths lead -/

theorem locate_eq_ok_iff {p : Path} : t.locate p = .ok l ↔ hasZero p.text = false ∧
    p.text.utf8ByteSize < pathLimit ∧ t.follow (t.base p) p.names = .ok l := by
  unfold locate
  cases hasZero p.text with
  | true => simp
  | false =>
    rw [if_neg Bool.false_ne_true]
    split
    · simp only [reduceCtorEq, true_and, false_iff, not_and]
      omega
    · simp only [true_and]
      exact ⟨fun h => ⟨by omega, h⟩, fun h => h.2⟩

/-- With another last name a path leads to something else in the same directory; the path without
names is a directory itself. -/
theorem locate_withName {p : Path} {name : String} (hk : t.locate p = .ok k)
    (hl : t.locate (p.withName name) = .ok l) :
    (p.names = [] ∧ l = k.enter name) ∨
      (p.names ≠ [] ∧ ∃ dir : Location, k = dir.enter p.name ∧ l = dir.enter name) := by
  have hfollow := (locate_eq_ok_iff.1 hk).2.2
  have hother : t.follow (t.base p) (p.names.dropLast ++ [name]) = .ok l :=
    (locate_eq_ok_iff.1 hl).2.2
  by_cases hnames : p.names = []
  · rw [hnames] at hfollow hother
    rw [follow, Except.ok.injEq] at hfollow
    rw [hfollow] at hother
    exact .inl ⟨hnames, (follow_singleton_eq_ok_iff.1 hother).2⟩
  · rw [Path.names_eq_concat hnames] at hfollow
    exact .inr ⟨hnames, follow_concat hfollow hother⟩

/-- With another last name that does not lead up, a path leads to another place. -/
theorem ne_of_locate_withName {p : Path} {name : String} (hname : name ≠ "..")
    (hne : name ≠ p.name) (hk : t.locate p = .ok k) (hl : t.locate (p.withName name) = .ok l) :
    k ≠ l := by
  rcases locate_withName hk hl with ⟨_, rfl⟩ | ⟨_, dir, rfl, rfl⟩
  · rw [Location.enter, if_neg hname]
    intro h
    simpa using congrArg List.length h
  · rw [Location.enter, Location.enter, if_neg hname]
    split
    · intro h
      have hlength := congrArg List.length h
      simp only [List.length_dropLast, List.length_append, List.length_singleton] at hlength
      omega
    · intro h
      exact hne (List.append_inj_right' h rfl |> List.singleton_inj.1).symm

/-! ## Writing -/

@[simp] theorem content?_addFile_self (l : Location) (bytes : List UInt8) :
    (t.addFile l bytes).content? l = some bytes := by
  rw [content?, addFile, lookup_put, if_pos rfl]

theorem content?_addFile_of_ne (h : k ≠ l) (bytes : List UInt8) :
    (t.addFile l bytes).content? k = t.content? k := by
  rw [content?, addFile, lookup_put, if_neg h]
  rfl

theorem follow_addFile_eq_ok_iff {m : Location} {bytes : List UInt8} {names : List String} :
    (t.addFile m bytes).follow here names = .ok l ↔ t.follow here names = .ok l := by
  induction names generalizing here with
  | nil => rfl
  | cons name rest ih =>
    by_cases hrest : rest = []
    · subst hrest
      rw [follow_singleton_eq_ok_iff, follow_singleton_eq_ok_iff]
    · rw [follow_cons_eq_ok_iff hrest, follow_cons_eq_ok_iff hrest, ih]
      rfl

/-- One more file makes no difference to where paths lead. -/
theorem locate_addFile_eq_ok_iff {m : Location} {bytes : List UInt8} {p : Path} :
    (t.addFile m bytes).locate p = .ok l ↔ t.locate p = .ok l := by
  rw [locate_eq_ok_iff, locate_eq_ok_iff, follow_addFile_eq_ok_iff]
  rfl

theorem read_eq_ok_iff {p : Path} {bytes : List UInt8} : t.read p = .ok bytes ↔
    ∃ l, t.locate p = .ok l ∧ t.isDirectory l = false ∧ t.content? l = some bytes := by
  unfold read
  cases t.locate p with
  | error cause => simp
  | ok m =>
    simp only [Except.ok.injEq, exists_eq_left']
    cases t.isDirectory m with
    | true => simp
    | false =>
      simp only [Bool.false_eq_true, if_false, true_and]
      cases t.content? m <;> simp

/-- After a file is added, what is read is that file or what was read before. -/
theorem read_addFile_eq_ok_iff {m : Location} {added : List UInt8} {p : Path}
    {bytes : List UInt8} : (t.addFile m added).read p = .ok bytes ↔
      ∃ l, t.locate p = .ok l ∧ t.isDirectory l = false ∧
        (if l = m then some added else t.content? l) = some bytes := by
  rw [read_eq_ok_iff]
  refine exists_congr fun l => ?_
  have hcontent : (t.addFile m added).content? l = if l = m then some added else t.content? l :=
    lookup_put m added t.files l
  rw [locate_addFile_eq_ok_iff, hcontent]
  rfl

theorem write_eq_ok_iff {p : Path} {bytes : List UInt8} {u : Tree} : t.write p bytes = .ok u ↔
    ∃ l, t.locate p = .ok l ∧ t.isDirectory l = false ∧ u = t.addFile l bytes := by
  unfold write
  cases t.locate p with
  | error cause => simp
  | ok m =>
    simp only [Except.ok.injEq, exists_eq_left']
    cases t.isDirectory m with
    | true => simp
    | false => simp only [Bool.false_eq_true, if_false, Except.ok.injEq, true_and, eq_comm]

end Tree

end Colonnade.Files

import Colonnade.Proofs.Turtle.Stack

/-!
# Walks along pruned strings

A turtle has no use for symbols that it does not obey, for a `]` that goes back to nothing, and for a
`[` that nothing goes back to.  `pruned` takes them all out at once, and the walk stays the same
(`walk_pruned`).

The two walks go side by side.  Their turtles are in the same place with the same points behind them,
but along the whole string a turtle also keeps what it saved at brackets that are never closed.  Such
turtles lie below all others and are never gone back to (`Walker.above`).  `Split` says so of the
brackets alone: of those that are open, the last ones are closed further on, and those below them
never are.  There is one lemma on it for each symbol, and they carry both results.
-/

namespace Colonnade.Turtle

open Text (CodePoint Loose)
open Text.CodePoint (char)

/-- The symbols that a turtle obeys. -/
def commands : Loose := ['F', '+', '-', '[', ']']

/-- Whether a symbol that stands between two strings is of use: a turtle obeys it, and if it is a
bracket it is matched by another. -/
def IsUsed (before : Loose) (symbol : CodePoint) (after : Loose) : Prop :=
  symbol ∈ commands ∧ (symbol = '[' → HasClosing after) ∧ (symbol = ']' → HasOpening before)

instance (before : Loose) (symbol : CodePoint) (after : Loose) :
    Decidable (IsUsed before symbol after) :=
  inferInstanceAs (Decidable (_ ∧ _))

/-- The symbols of use in the rest of a string. -/
def prunedFrom (before : Loose) : Loose → Loose
  | [] => []
  | symbol :: after =>
    if IsUsed before symbol after then symbol :: prunedFrom (before ++ [symbol]) after
    else prunedFrom (before ++ [symbol]) after

/-- A string without the symbols that are of no use. -/
def pruned (symbols : Loose) : Loose := prunedFrom [] symbols

section Symbols

variable {before after : Loose} {symbol : CodePoint}

theorem isUsed_open_iff : IsUsed before '[' after ↔ closes 0 after = true := by
  simp [IsUsed, commands, hasClosing_iff]

theorem isUsed_close_iff : IsUsed before ']' after ↔ 0 < openAfter before := by
  simp [IsUsed, commands, hasOpening_iff]

theorem prunedFrom_of_isUsed (h : IsUsed before symbol after) :
    prunedFrom before (symbol :: after) = symbol :: prunedFrom (before ++ [symbol]) after :=
  if_pos h

theorem prunedFrom_of_not_isUsed (h : ¬IsUsed before symbol after) :
    prunedFrom before (symbol :: after) = prunedFrom (before ++ [symbol]) after :=
  if_neg h

end Symbols

/-! ## Open brackets -/

/-- Between two strings some brackets are open.  The last of them, `depth` many, are closed in the
second string, and the ones below, `lost` many, are not. -/
structure Split (before after : Loose) (depth lost : Nat) : Prop where
  opened : openAfter before = depth + lost
  closed : ∀ d < depth, closes d after = true
  unclosed : 0 < lost → closes depth after = false

theorem split_nil (after : Loose) : Split [] after 0 0 where
  opened := rfl
  closed := by
    intro d hd
    omega
  unclosed := by
    intro hlost
    omega

namespace Split

variable {before after : Loose} {symbol : CodePoint} {depth lost : Nat}

/-- A bracket that is closed further on lies above all others. -/
theorem push (h : Split before ('[' :: after) depth lost) (hused : closes 0 after = true) :
    Split (before ++ [char '[']) after (depth + 1) lost where
  opened := by
    rw [openAfter_concat, heightAfter_open, h.opened]
    omega
  closed := by
    intro d hd
    cases d with
    | zero => exact hused
    | succ d => exact h.closed d (by omega)
  unclosed := h.unclosed

/-- A bracket that is never closed finds none above which it could lie that is. -/
theorem lose (h : Split before ('[' :: after) depth lost) (hunused : closes 0 after = false) :
    depth = 0 ∧ Split (before ++ [char '[']) after 0 (lost + 1) := by
  have hdepth : depth = 0 := by
    by_contra hne
    have hinner : closes 1 after = true := h.closed 0 (by omega)
    rw [closes_of_closes_succ hinner] at hunused
    cases hunused
  subst hdepth
  refine ⟨rfl, ?_, ?_, ?_⟩
  · rw [openAfter_concat, heightAfter_open, h.opened]
    omega
  · intro d hd
    omega
  · exact fun _ => hunused

/-- A bracket that closes another closes one that is not lost. -/
theorem pop (h : Split before (']' :: after) depth lost) (hused : 0 < openAfter before) :
    ∃ below, depth = below + 1 ∧ Split (before ++ [char ']']) after below lost := by
  have hopened := h.opened
  cases depth with
  | zero =>
    -- Only lost brackets are open, and here the last of them would be closed.
    have hlost : 0 < lost := by omega
    exact absurd (h.unclosed hlost) (by simp)
  | succ below =>
    refine ⟨below, rfl, ?_, ?_, ?_⟩
    · rw [openAfter_concat, heightAfter_close, hopened]
      omega
    · intro d hd
      exact h.closed (d + 1) (by omega)
    · exact h.unclosed

/-- A bracket that closes nothing finds none open. -/
theorem skip (h : Split before (']' :: after) depth lost) (hunused : ¬0 < openAfter before) :
    depth = 0 ∧ lost = 0 ∧ Split (before ++ [char ']']) after 0 0 := by
  have hopened := h.opened
  refine ⟨by omega, by omega, ?_, ?_, ?_⟩
  · rw [openAfter_concat, heightAfter_close]
    omega
  · intro d hd
    omega
  · intro hlost
    omega

/-- Other symbols do nothing to brackets. -/
theorem pass (h : Split before (symbol :: after) depth lost) (hopen : symbol ≠ '[')
    (hclose : symbol ≠ ']') : Split (before ++ [symbol]) after depth lost where
  opened := by
    rw [openAfter_concat, heightAfter_of_ne hopen hclose]
    exact h.opened
  closed := by
    intro d hd
    rw [← closes_cons_of_ne hopen hclose]
    exact h.closed d hd
  unclosed := by
    intro hlost
    rw [← closes_cons_of_ne hopen hclose]
    exact h.unclosed hlost

end Split

/-! ## The pruned string -/

/-- The brackets that are left match. -/
theorem Split.heightFrom_prunedFrom {before after : Loose} {depth lost : Nat}
    (h : Split before after depth lost) : heightFrom depth (prunedFrom before after) = some 0 := by
  induction after generalizing before depth lost with
  | nil =>
    have hdepth : depth = 0 := by
      by_contra hne
      exact Bool.false_ne_true (h.closed 0 (by omega))
    rw [hdepth]
    rfl
  | cons symbol after ih =>
    by_cases hopen : symbol = '['
    · subst hopen
      by_cases hused : closes 0 after = true
      · rw [prunedFrom_of_isUsed (isUsed_open_iff.2 hused), heightFrom_open]
        exact ih (h.push hused)
      · rw [prunedFrom_of_not_isUsed (mt isUsed_open_iff.1 hused)]
        obtain ⟨rfl, hsplit⟩ := h.lose (Bool.eq_false_iff.2 hused)
        exact ih hsplit
    · by_cases hclose : symbol = ']'
      · subst hclose
        by_cases hused : 0 < openAfter before
        · obtain ⟨below, rfl, hsplit⟩ := h.pop hused
          rw [prunedFrom_of_isUsed (isUsed_close_iff.2 hused), heightFrom_close_succ]
          exact ih hsplit
        · obtain ⟨rfl, rfl, hsplit⟩ := h.skip hused
          rw [prunedFrom_of_not_isUsed (mt isUsed_close_iff.1 hused)]
          exact ih hsplit
      · by_cases hused : IsUsed before symbol after
        · rw [prunedFrom_of_isUsed hused, heightFrom_cons_of_ne hopen hclose]
          exact ih (h.pass hopen hclose)
        · rw [prunedFrom_of_not_isUsed hused]
          exact ih (h.pass hopen hclose)

/-- Every bracket of a pruned string is matched. -/
theorem wellBracketed_pruned (symbols : Loose) : WellBracketed (pruned symbols) :=
  wellBracketed_iff.2 (split_nil symbols).heightFrom_prunedFrom

/-! ## Walks -/

namespace Walker

variable {angle step : Float} {v : Walker} {lost : List State} {symbol : CodePoint}

theorem obey_of_not_mem (h : symbol ∉ commands) (angle step : Float) (w : Walker) :
    w.obey angle step symbol = .ok w := by
  unfold obey
  split <;> first | rfl | exact absurd (by decide) h

/-- A symbol that both strings have is obeyed on both sides, or fails on both. -/
theorem follow_cons_above (h : symbol = ']' → v.saved ≠ []) {a b : Loose}
    (hrest : ∀ u, v.obey angle step symbol = .ok u →
      ((u.above lost).follow angle step a).map points = (u.follow angle step b).map points) :
    ((v.above lost).follow angle step (symbol :: a)).map points =
      (v.follow angle step (symbol :: b)).map points := by
  rw [follow_cons, follow_cons, obey_above h]
  cases hobey : v.obey angle step symbol with
  | error fault => rfl
  | ok u => exact hrest u hobey

/-- However the turtles are split that are saved between two strings, the walks along the second string
and along what is of use of it record the same points. -/
def Agree (angle step : Float) (before after : Loose) : Prop :=
  ∀ (v : Walker) (lost : List State), Split before after v.saved.length lost.length →
    ((v.above lost).follow angle step after).map points =
      (v.follow angle step (prunedFrom before after)).map points

section Agree

variable {before after : Loose}

theorem agree_open (h : Agree angle step (before ++ [char '[']) after) :
    Agree angle step before ('[' :: after) := by
  intro v lost hsplit
  by_cases hused : closes 0 after = true
  · rw [prunedFrom_of_isUsed (isUsed_open_iff.2 hused)]
    refine follow_cons_above (fun hclose => absurd hclose (by decide)) fun u hu => ?_
    cases hu
    exact h _ lost (hsplit.push hused)
  · rw [prunedFrom_of_not_isUsed (mt isUsed_open_iff.1 hused)]
    obtain ⟨hdepth, hnext⟩ := hsplit.lose (Bool.eq_false_iff.2 hused)
    -- With nothing above it, the turtle saved here is one more below.
    have hsaved : v.saved = [] := List.length_eq_zero_iff.1 hdepth
    have hobey : (v.above lost).obey angle step '[' = .ok (v.above (v.here :: lost)) := by
      simp [obey, above, hsaved]
    rw [follow_cons, hobey]
    rw [← hdepth] at hnext
    exact h v (v.here :: lost) hnext

theorem agree_close (h : Agree angle step (before ++ [char ']']) after) :
    Agree angle step before (']' :: after) := by
  intro v lost hsplit
  by_cases hused : 0 < openAfter before
  · rw [prunedFrom_of_isUsed (isUsed_close_iff.2 hused)]
    obtain ⟨below, hdepth, hnext⟩ := hsplit.pop hused
    obtain ⟨last, rest, hsaved⟩ := List.exists_cons_of_length_eq_add_one hdepth
    refine follow_cons_above (fun _ => by simp [hsaved]) fun u hu => ?_
    simp only [obey, hsaved, Except.ok.injEq] at hu
    subst hu
    rw [hsaved, List.length_cons] at hdepth
    rw [← Nat.succ.inj hdepth] at hnext
    exact h _ lost hnext
  · rw [prunedFrom_of_not_isUsed (mt isUsed_close_iff.1 hused)]
    obtain ⟨hdepth, hlost, hnext⟩ := hsplit.skip hused
    have hsaved : v.saved = [] := List.length_eq_zero_iff.1 hdepth
    have hnone : lost = [] := List.length_eq_zero_iff.1 hlost
    have hobey : (v.above lost).obey angle step ']' = .ok (v.above lost) := by
      simp [obey, above, hsaved, hnone]
    rw [follow_cons, hobey]
    apply h v lost
    rw [hdepth, hlost]
    exact hnext

theorem agree_of_ne (hopen : symbol ≠ '[') (hclose : symbol ≠ ']')
    (h : Agree angle step (before ++ [symbol]) after) :
    Agree angle step before (symbol :: after) := by
  intro v lost hsplit
  have hnext := hsplit.pass hopen hclose
  by_cases hused : IsUsed before symbol after
  · rw [prunedFrom_of_isUsed hused]
    refine follow_cons_above (fun h => absurd h hclose) fun u hu => ?_
    rw [← saved_of_obey hopen hclose hu] at hnext
    exact h u lost hnext
  · rw [prunedFrom_of_not_isUsed hused]
    have hstray : symbol ∉ commands := by
      intro hmem
      exact hused ⟨hmem, fun h => absurd h hopen, fun h => absurd h hclose⟩
    rw [follow_cons, obey_of_not_mem hstray]
    exact h v lost hnext

/-- Every symbol keeps the split, with other turtles saved on both sides. -/
theorem agree (angle step : Float) (before after : Loose) : Agree angle step before after := by
  induction after generalizing before with
  | nil => exact fun _ _ _ => rfl
  | cons symbol after ih =>
    by_cases hopen : symbol = '['
    · subst hopen
      exact agree_open (ih _)
    · by_cases hclose : symbol = ']'
      · subst hclose
        exact agree_close (ih _)
      · exact agree_of_ne hopen hclose (ih _)

end Agree

end Walker

/-- Whatever the string, the angle and the length of a step: a walk records the same points, or fails
for the same reason, if all symbols that are of no use are taken out of the string. -/
theorem walk_pruned (symbols : Loose) (angle step : Float) :
    walk (pruned symbols) angle step = walk symbols angle step := by
  have hpoints := Walker.agree angle step [] symbols {} [] (split_nil symbols)
  rw [Walker.above_nil] at hpoints
  exact hpoints.symm

/-- Symbols that no turtle obeys are taken out together with a `]` that comes too early and a `[` that
stays open, and the matched brackets between them stay. -/
example : pruned "]F[x[+F]-]y[F" = "F[[+F]-]F" := by decide

end Colonnade.Turtle

import Colonnade.Proofs.Text.Case
import Colonnade.Proofs.Warning.Run
import Colonnade.Warning.Code

/-!
# Lists of warning codes

Reading a list of codes turns the joining of texts into the union of sets (`parseList_joined`).  A
comma keeps the tokens of two texts apart (`tokens_append`), tokens are looked up one by one, and
which of them is the first unknown one does not depend on what comes after it (`ofTokens_append`).

A token selects a code by its text or by its name in any letter case.  The lower case meant here is
that of Unicode; `lowered_eq_iff` says that comparing the ASCII letters is enough.

A set of codes is kept as the list of its members in rising order (`codeSet`), so two sets are the
same as soon as they have the same members.
-/

namespace Colonnade.Code

/-! ## Sets of codes -/

/-- The set of some codes: each of them once, in rising order. -/
def codeSet (codes : List Code) : List Code := all.filter (codes.contains ·)

/-- The codes of two sets. -/
def union (r s : List Code) : List Code := codeSet (r ++ s)

@[simp] theorem mem_codeSet_iff {codes : List Code} {c : Code} : c ∈ codeSet codes ↔ c ∈ codes := by
  simp [codeSet, mem_all]

/-- Sets with the same members are the same. -/
theorem codeSet_congr {r s : List Code} (h : ∀ c, c ∈ r ↔ c ∈ s) : codeSet r = codeSet s :=
  List.filter_congr fun c _ => by simp [h c]

theorem codeSet_append (r s : List Code) : codeSet (r ++ s) = union (codeSet r) (codeSet s) :=
  codeSet_congr fun c => by simp

theorem codeSet_codeSet (codes : List Code) : codeSet (codeSet codes) = codeSet codes :=
  codeSet_congr fun _ => mem_codeSet_iff

theorem codeSet_sublist (codes : List Code) : (codeSet codes).Sublist all :=
  List.filter_sublist

theorem parseList_eq (raw : String) : parseList raw = (ofTokens (tokens raw)).map codeSet := rfl

/-! ## Tokens -/

/-- A comma between two texts keeps their tokens apart. -/
theorem tokens_append (a b : String) : tokens (a ++ "," ++ b) = tokens a ++ tokens b := by
  have htext : (a ++ "," ++ b).toList = a.toList ++ ',' :: b.toList := by simp
  rw [tokens, htext, Text.split_append, List.map_append]
  rfl

/-- Tokens are looked up in order, so the first unknown one is that of the first list, if there is
one. -/
theorem ofTokens_append (first second : List String) :
    ofTokens (first ++ second) =
      ofTokens first >>= fun r => ofTokens second >>= fun s => pure (r ++ s) := by
  induction first with
  | nil =>
    show ofTokens second = ofTokens second >>= pure
    cases ofTokens second <;> rfl
  | cons token rest ih =>
    rw [List.cons_append, ofTokens, ofTokens]
    split
    · exact ih
    · split
      · rfl
      · rw [ih]
        cases ofTokens rest with
        | error unknown => rfl
        | ok r => cases ofTokens second <;> rfl

/-- All tokens of a list are known exactly if each one is blank or selects a code. -/
theorem exists_ofTokens_eq_ok_iff {list : List String} :
    (∃ r, ofTokens list = .ok r) ↔ ∀ token ∈ list, token = "" ∨ ∃ c, ofToken? token = some c := by
  induction list with
  | nil => exact iff_of_true ⟨[], rfl⟩ fun _ h => absurd h List.not_mem_nil
  | cons token rest ih =>
    rw [List.forall_mem_cons, ← ih, ofTokens]
    by_cases hblank : token = ""
    · simp [hblank]
    · cases hfound : ofToken? token with
      | none => simp [hblank]
      | some c => simp [hblank, except_map_eq_ok_iff]

/-! ## Names -/

/-- The letters of the names are ASCII, and none of them is a k. -/
theorem ascii_name (c : Code) : ∀ d ∈ c.name.toList, d.toNat < 0x80 := by
  have hall : (c.name.toList.all fun d => d.toNat < 0x80) = true := by
    cases c <;> rfl
  simpa only [List.all_eq_true, decide_eq_true_eq] using hall

theorem ascii_lowered_name (c : Code) : ∀ d ∈ lowered c.name, d.toNat < 0x80 ∧ d ≠ 'k' := by
  have hall : ((lowered c.name).all fun d => d.toNat < 0x80 ∧ d ≠ 'k') = true := by
    cases c <;> rfl
  simpa only [List.all_eq_true, decide_eq_true_eq] using hall

/-- A token has the letters of a name exactly if both have the same lower case. -/
theorem lowered_eq_iff (token : String) (c : Code) :
    lowered c.name = lowered token ↔ Text.lower token.toList = Text.lower c.name.toList := by
  have hname : Text.lower c.name.toList = lowered c.name := Text.lower_of_ascii (ascii_name c)
  -- Either way the token turns out to be ASCII, and then its lower case is that of its letters.
  constructor
  · intro h
    have htoken : ∀ d ∈ token.toList, d.toNat < 0x80 := by
      intro d hd
      by_contra hlarge
      have hsame := Text.toLower_of_le (Nat.not_lt.1 hlarge)
      have hmem : d ∈ lowered c.name := h ▸ List.mem_map.2 ⟨d, hd, hsame⟩
      exact hlarge (ascii_lowered_name c d hmem).1
    rw [hname, h]
    exact Text.lower_of_ascii htoken
  · intro h
    rw [hname] at h
    have htoken := Text.ascii_of_lower fun d hd => ascii_lowered_name c d (h ▸ hd)
    rw [← h]
    exact Text.lower_of_ascii htoken

theorem ofText?_eq_some_iff {token : String} {c : Code} :
    ofText? token = some c ↔ token = c.text := by
  constructor
  · intro h
    have hfound := List.find?_some h
    exact (beq_iff_eq.1 hfound).symm
  · rintro rfl
    exact ofText?_text c

/-- A token selects a code exactly if it is one, letter by letter, or a name in some letter case. -/
theorem exists_ofToken?_iff {token : String} :
    (∃ c, ofToken? token = some c) ↔ (∃ c : Code, token = c.text) ∨
      ∃ c : Code, Text.lower token.toList = Text.lower c.name.toList := by
  have hname : (∃ c, all.find? (fun c => lowered c.name == lowered token) = some c) ↔
      ∃ c : Code, Text.lower token.toList = Text.lower c.name.toList := by
    simp only [← Option.isSome_iff_exists, List.find?_isSome, beq_iff_eq, lowered_eq_iff]
    exact ⟨fun ⟨c, _, h⟩ => ⟨c, h⟩, fun ⟨c, h⟩ => ⟨c, mem_all c, h⟩⟩
  simp only [← ofText?_eq_some_iff]
  rw [← hname, ofToken?]
  cases ofText? token <;> simp

/-! ## Lists -/

/-- The list of two texts with a comma between them: the union of their sets, or the fault of the
first of them that has one. -/
theorem parseList_append (a b : String) :
    parseList (a ++ "," ++ b) =
      match parseList a, parseList b with
      | .error unknown, _ => .error unknown
      | .ok _, .error unknown => .error unknown
      | .ok r, .ok s => .ok (union r s) := by
  simp only [parseList_eq, tokens_append, ofTokens_append]
  cases ofTokens (tokens a) with
  | error unknown => rfl
  | ok r =>
    cases ofTokens (tokens b) with
    | error unknown => rfl
    | ok s => exact congrArg Except.ok (codeSet_append r s)

theorem parseList_text (c : Code) : parseList c.text = .ok (codeSet [c]) := by
  cases c <;> decide

/-- Codes that are written one after the other are read as their set. -/
theorem parseList_join (codes : List Code) :
    parseList (",".intercalate (codes.map text)) = .ok (codeSet codes) := by
  induction codes with
  | nil => decide
  | cons c rest ih =>
    cases rest with
    | nil => exact parseList_text c
    | cons d more =>
      rw [List.map_cons, List.map_cons, String.intercalate_cons_cons, parseList_append,
        parseList_text, ← List.map_cons, ih]
      exact congrArg Except.ok (codeSet_append [c] (d :: more)).symm

/-- Reading lists of codes turns commas into unions.

Of two texts with a comma between them, the fault is that of the first one if it has one, otherwise
that of the second one if that has one, and otherwise the set is the union of both.  A text has no
fault exactly if each of its tokens is blank, a code spelled exactly, or a name up to letter case.
And whatever set is read is one of known codes, each of them once, and is read again from its
members in any order with commas between them. -/
theorem parseList_joined :
    (∀ a b : String, parseList (a ++ "," ++ b) =
      match parseList a, parseList b with
      | .error unknown, _ => .error unknown
      | .ok _, .error unknown => .error unknown
      | .ok r, .ok s => .ok (union r s)) ∧
    (∀ raw : String, (∃ r, parseList raw = .ok r) ↔
      ∀ token ∈ tokens raw, token = "" ∨ (∃ c : Code, token = c.text) ∨
        ∃ c : Code, Text.lower token.toList = Text.lower c.name.toList) ∧
    ∀ (raw : String) (r : List Code), parseList raw = .ok r →
      r.Sublist all ∧
      ∀ order : List Code, order.Perm r → parseList (",".intercalate (order.map text)) = .ok r := by
  refine ⟨parseList_append, fun raw => ?_, fun raw r h => ?_⟩
  · simp only [← exists_ofToken?_iff, ← exists_ofTokens_eq_ok_iff, parseList_eq,
      except_map_eq_ok_iff]
    exact ⟨fun ⟨_, codes, h, _⟩ => ⟨codes, h⟩, fun ⟨codes, h⟩ => ⟨_, codes, h, rfl⟩⟩
  · rw [parseList_eq] at h
    obtain ⟨codes, _, rfl⟩ := except_map_eq_ok_iff.1 h
    refine ⟨codeSet_sublist codes, fun order horder => ?_⟩
    rw [parseList_join, codeSet_congr fun c => horder.mem_iff, codeSet_codeSet]

/-- A blank token, a name in odd letter case and a code: they are read again the other way round. -/
theorem parseList_joined_reversed :
    parseList " ,originPOINT,W01\t" = .ok [.degenerateGeometry, .originPoint] ∧
      parseList (",".intercalate ([originPoint, degenerateGeometry].map text)) =
        .ok [.degenerateGeometry, .originPoint] := by
  have hread : parseList " ,originPOINT,W01\t" = .ok [.degenerateGeometry, .originPoint] := by
    decide
  exact ⟨hread, (parseList_joined.2.2 _ _ hread).2 _ (List.Perm.swap _ _ _)⟩

end Colonnade.Code

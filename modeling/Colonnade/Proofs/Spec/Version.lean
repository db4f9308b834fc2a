import Mathlib.Data.Prod.Lex
import Colonnade.Proofs.Document.Store
import Colonnade.Proofs.Spec.Loading
import Colonnade.Proofs.Spec.Reading

/-!
# The version of a document is the version of its specification

A version is read twice.  Before the schema is applied, the member of the document is written as a
text and the text is checked; later the version gate reads the text that the schema kept.  Both are
the same text (`Spec.plainText_of_accepted`): only texts and bytes pass the schema, and bytes are
written with a mark in front that no number begins with.  So the gate reads the version that was
accepted, and never falls back on the earliest one.
-/

namespace Colonnade

open Text (Loose)

/-! ## Numbers -/

theorem Text.exists_trim_cons {isTrimmed : Char → Bool} {c : Char} (h : isTrimmed c = false)
    (rest : List Char) : ∃ others, trim isTrimmed (c :: rest) = c :: others := by
  have hback : ([c] : List Char).dropWhile isTrimmed = [c] := by simp [h]
  rw [trim, List.dropWhile_cons_of_neg (by simp [h]), List.reverse_cons, List.dropWhile_append,
    hback]
  split
  · exact ⟨[], rfl⟩
  · exact ⟨_, List.reverse_append⟩

/-- A text that begins with a letter is no decimal number. -/
theorem Number.readLooseInteger_cons_ne_ok {c : Char} (hblank : Text.isBlank c = false)
    (hsign : c ≠ '-' ∧ c ≠ '+') (hmark : c ≠ '_') (hdigit : digitBelow? 10 c = none)
    (rest : Loose) (n : Int) : readLooseInteger 10 (.char c :: rest) ≠ .ok n := by
  have hchars : Loose.charsOr '?' (.char c :: rest) = c :: rest.charsOr '?' := rfl
  obtain ⟨others, htrim⟩ := Text.exists_trim_cons hblank (rest.charsOr '?')
  have hunsigned : splitSign (c :: others) = (false, c :: others) := by
    unfold splitSign
    split <;> simp_all
  have hnone : digits? 10 (dropMark 10 (c :: others)) = none := by
    simp [dropMark, baseMark?, digits?, digitsFrom, hmark, hdigit]
  rw [readLooseInteger, hchars, readWritten, htrim, hunsigned]
  dsimp only
  rw [hnone]
  exact fun h => nomatch h

/-! ## Versions -/

namespace Version

variable {text : Loose} {v : Version}

/-- A version is two integers with a point between them. -/
theorem ofText?_eq_some_iff : ofText? text = some v ↔
    ∃ major minor, Text.split (.char '.') text = [major, minor] ∧
      Number.readLooseInteger 10 major = .ok v.major ∧
      Number.readLooseInteger 10 minor = .ok v.minor := by
  unfold ofText?
  constructor
  · intro h
    split at h
    · rename_i major minor hsplit
      split at h
      · rename_i hmajor hminor
        cases h
        exact ⟨major, minor, hsplit, hmajor, hminor⟩
      · cases h
    · cases h
  · rintro ⟨major, minor, hsplit, hmajor, hminor⟩
    rw [hsplit]
    dsimp only
    rw [hmajor, hminor]

theorem before_iff {a b : Version} : a.before b = true ↔
    a.major < b.major ∨ a.major = b.major ∧ a.minor < b.minor := by
  simp [before]

theorem le_of_before_eq_false (h : latest.before v = false) :
    toLex (v.major, v.minor) ≤ toLex (latest.major, latest.minor) := by
  rw [← Bool.not_eq_true, before_iff] at h
  rw [Prod.Lex.toLex_le_toLex]
  dsimp only
  omega

/-- A version that is not after the latest is before it exactly if it is another one. -/
theorem before_latest_iff (h : latest.before v = false) : v.before latest = true ↔ v ≠ latest := by
  rw [← Bool.not_eq_true, before_iff] at h
  obtain ⟨major, minor⟩ := v
  simp only [before_iff, latest, ne_eq, Version.mk.injEq] at h ⊢
  omega

end Version

/-! ## The text of a version -/

/-- Bytes are written with a letter in front, which no number has. -/
theorem Document.Value.ofText?_bytesText (bytes : List UInt8) :
    Version.ofText? (bytesText bytes) = none := by
  rw [Option.eq_none_iff_forall_ne_some]
  intro v h
  obtain ⟨major, minor, hsplit, hmajor, _⟩ := Version.ofText?_eq_some_iff.1 h
  rw [bytesText, Loose.ofText, String.toList_ofList, List.cons_append, Loose.ofChars, List.map_cons,
    Text.split, if_neg (by decide)] at hsplit
  split at hsplit
  · cases hsplit
  · cases hsplit
    exact Number.readLooseInteger_cons_ne_ok (by decide) (by decide) (by decide) (by decide) _ _
      hmajor

namespace Spec

open Document (Content Member Value)
open Schema (Reader)
open Schema.Checked

/-- A value is accepted as a version if its text is one that is not after the latest. -/
theorem checkVersion_eq_ok_iff {value : Value} :
    checkVersion value = .ok () ↔ value.holdsTooLarge = false ∧
      Version.check value.plainText = .ok () := by
  unfold checkVersion
  cases value.holdsTooLarge with
  | true => simp
  | false =>
    rw [if_neg Bool.false_ne_true, mapError_eq_ok_iff]
    exact (and_iff_right rfl).symm

/-- The version of a document that is accepted is there and is accepted itself. -/
theorem exists_version_of_checkContent {content : Content} (h : checkContent content = .ok ()) :
    ∃ version, version? content = some version ∧
      checkVersion (content.written version) = .ok () := by
  unfold checkContent at h
  unfold version?
  split at h
  · cases h
  · rename_i pairs hpairs
    rw [hpairs, Option.bind_some]
    split at h
    · cases h
    · cases h
    · rename_i version _ hversion
      exact ⟨version, hversion, h⟩

theorem loadContent_eq_ok_iff {text : List Char} {content : Content} :
    loadContent text = .ok content ↔ Yaml.load text = .ok content ∧
      checkContent content = .ok () := by
  unfold loadContent
  rw [except_bind_eq_ok_iff]
  constructor
  · rintro ⟨loaded, hload, h⟩
    obtain ⟨_, hcheck, hpure⟩ := except_bind_eq_ok_iff.1 h
    cases hpure
    exact ⟨mapError_eq_ok_iff.1 hload, hcheck⟩
  · rintro ⟨hload, hcheck⟩
    exact ⟨content, mapError_eq_ok_iff.2 hload, except_bind_eq_ok_iff.2 ⟨(), hcheck, rfl⟩⟩

/-- Text that passes the schema and whose writing is accepted is the text that is written. -/
theorem plainText_of_accepted {m : Member} {below above : Nat → Value} {text : Loose}
    (hbelow : ∀ number, (below number).IsCollection)
    (hread : Reader.text (m.toValue below) = .ok text)
    (haccepted : checkVersion (m.toValue above) = .ok ()) :
    (m.toValue above).plainText = text := by
  obtain ⟨_, hcheck⟩ := checkVersion_eq_ok_iff.1 haccepted
  cases m with
  | scalar origin value =>
    rw [Member.toValue] at hread hcheck ⊢
    cases value with
    | text own =>
      cases hread
      rfl
    | bytes bytes =>
      have hwritten : (Value.bytes bytes).plainText = Loose.ofText (Value.bytesText bytes) := rfl
      obtain ⟨v, hv, _⟩ := (Version.check_eq_ok_iff _).1 hcheck
      rw [hwritten, Value.ofText?_bytesText] at hv
      cases hv
    | _ => cases hread
  | tuple members => cases hread
  | object number =>
    have hcollection := hbelow number
    rw [Member.toValue] at hread
    generalize below number = found at hcollection hread
    cases hcollection <;> cases hread

/-! ## Loading -/

theorem readFields_of_ofFields {pairs : Reader.Pairs} {s : Spec} (h : ofFields pairs = .ok s) :
    readFields pairs = .ok s := by
  unfold ofFields at h
  split at h
  · split at h
    · rename_i hread
      cases h
      exact hread
    · cases h
  · cases h

/-- The version of a specification is the text of the accepted version of its document. -/
theorem plainText_version_of_load {text : List Char} {s : Spec} (h : load text = .ok s) :
    ∃ content version, Yaml.load text = .ok content ∧ version? content = some version ∧
      checkVersion (content.written version) = .ok () ∧
      (content.written version).plainText = s.version := by
  obtain ⟨content, hcontent, hfields⟩ := (load_eq_ok_iff text s).1 h
  obtain ⟨hyaml, hchecked⟩ := loadContent_eq_ok_iff.1 hcontent
  obtain ⟨version, hversion, haccepted⟩ := exists_version_of_checkContent hchecked
  refine ⟨content, version, hyaml, hversion, haccepted, ?_⟩
  obtain ⟨pairs, hpairs, hlookup⟩ := Option.bind_eq_some_iff.1 hversion
  obtain ⟨below, hbelow, hunrolled⟩ := content.exists_pairs?_unrolled hpairs 7
  have hspec := (readFields_eq_ok_iff.1 (readFields_of_ofFields hfields)).2.1
  obtain ⟨value, hvalue, hread⟩ := Reader.required_eq_ok_iff.1 hspec.version
  -- The field that the schema reads is the member that was checked.
  rw [fieldsOf, schemaDepth, hunrolled, Option.getD_some, Reader.field?,
    Member.lookup?_map_toValue hbelow, hlookup, Option.map_some, Option.some.injEq] at hvalue
  rw [← hvalue] at hread
  exact plainText_of_accepted hbelow hread haccepted

end Spec

/-! ## The version gate -/

section Gate

variable {id version : Loose}

theorem SpecFault.findSome?_ne {α : Type} {check : α → Option SpecFault} {fault : SpecFault}
    {as : List α} (h : ∀ a ∈ as, check a ≠ some fault) : as.findSome? check ≠ some fault := by
  intro hfound
  obtain ⟨a, ha, hcheck⟩ := List.exists_of_findSome?_eq_some hfound
  exact h a ha hcheck

namespace Pillar

theorem notFinite?_ne_tooEarly (p : Pillar) : p.notFinite? ≠ some (.tooEarly id version) := by
  simp [notFinite?]

theorem badHeight?_ne_tooEarly (p : Pillar) : p.badHeight? ≠ some (.tooEarly id version) := by
  simp [badHeight?]

theorem badSymbol?_ne_tooEarly (p : Pillar) : p.badSymbol? ≠ some (.tooEarly id version) := by
  simp [badSymbol?]

theorem outOfRange?_ne {α : Type} {use : Unset} {isBad : α → Bool} {fault : α → SpecFault}
    (h : ∀ a, fault a ≠ .tooEarly id version) (value : Option α) :
    outOfRange? use isBad fault value ≠ some (.tooEarly id version) := by
  cases value with
  | none => simp [outOfRange?]
  | some a => simp [outOfRange?, h]

theorem integerFault_ne {fault : Int → SpecFault} (h : ∀ n, fault n ≠ .tooEarly id version)
    (n : Int) : integerFault fault n ≠ .tooEarly id version := by
  unfold integerFault
  split
  · exact fun h => nomatch h
  · exact h n

theorem badLSystem?_ne_tooEarly (p : Pillar) : p.badLSystem? ≠ some (.tooEarly id version) := by
  unfold badLSystem?
  split
  · refine SpecFault.findSome?_ne ?_
    simp only [List.forall_mem_cons, List.not_mem_nil, false_imp_iff, implies_true, and_true]
    refine ⟨outOfRange?_ne (integerFault_ne ?_) _, outOfRange?_ne ?_ _, outOfRange?_ne ?_ _⟩
    all_goals exact fun _ h => nomatch h
  · exact fun h => nomatch h

theorem badFluting?_ne_tooEarly (p : Pillar) : p.badFluting? ≠ some (.tooEarly id version) := by
  unfold badFluting?
  split
  · refine SpecFault.findSome?_ne ?_
    simp only [List.forall_mem_cons, List.not_mem_nil, false_imp_iff, implies_true, and_true]
    refine ⟨outOfRange?_ne ?_ _, outOfRange?_ne (integerFault_ne ?_) _,
      outOfRange?_ne (integerFault_ne ?_) _⟩
    all_goals exact fun _ h => nomatch h
  · exact fun h => nomatch h

end Pillar

namespace Spec

variable {s : Spec}

theorem tooEarly?_eq_some_iff : s.tooEarly? = some (.tooEarly id version) ↔
    s.versionNumber.before .latest = true ∧
      (∃ p, s.pillars.find? Pillar.isFluted = some p ∧ p.id = id) ∧ s.version = version := by
  unfold tooEarly?
  rw [show (⟨0, 2⟩ : Version) = .latest from rfl]
  cases s.versionNumber.before .latest with
  | false => simp
  | true =>
    simp only [if_true, Option.map_eq_some_iff, SpecFault.tooEarly.injEq, true_and]
    exact ⟨fun ⟨p, hp, hid, hversion⟩ => ⟨⟨p, hp, hid⟩, hversion⟩,
      fun ⟨⟨p, hp, hid⟩, hversion⟩ => ⟨p, hp, hid, hversion⟩⟩

/-- The first check alone refuses a specification for its version, and no other comes before it. -/
theorem validate_eq_tooEarly_iff : s.validate = .error (.tooEarly id version) ↔
    s.tooEarly? = some (.tooEarly id version) := by
  have hothers : s.checks.tail.findSome? (fun fault => fault) ≠ some (.tooEarly id version) := by
    refine SpecFault.findSome?_ne ?_
    simp only [checks, List.tail_cons, List.forall_mem_cons, List.not_mem_nil, false_imp_iff,
      implies_true, and_true]
    exact ⟨by simp, SpecFault.findSome?_ne fun p _ => p.notFinite?_ne_tooEarly,
      SpecFault.findSome?_ne fun p _ => p.badHeight?_ne_tooEarly,
      SpecFault.findSome?_ne fun p _ => p.badSymbol?_ne_tooEarly,
      SpecFault.findSome?_ne fun p _ => p.badLSystem?_ne_tooEarly,
      SpecFault.findSome?_ne fun p _ => p.badFluting?_ne_tooEarly⟩
  have hfault : s.fault? = s.tooEarly?.or (s.checks.tail.findSome? fun fault => fault) := by
    rw [fault?, checks, List.findSome?_cons]
    cases s.tooEarly? <;> rfl
  unfold validate
  rw [hfault]
  cases s.tooEarly? with
  | some fault => simp
  | none =>
    rw [Option.none_or]
    constructor
    · intro h
      cases hfound : s.checks.tail.findSome? fun fault => fault with
      | none =>
        rw [hfound] at h
        cases h
      | some fault =>
        rw [hfound] at h
        cases h
        exact absurd hfound hothers
    · intro h
      cases h

end Spec

end Gate

namespace Spec

/-- What is known of the version of a specification that a text writes. -/
structure HasVersion (s : Spec) (text : List Char) (v : Version) : Prop where
  /-- The version of the document is accepted, and its text is that of the specification. -/
  accepted : ∃ content version, Yaml.load text = .ok content ∧ version? content = some version ∧
    checkVersion (content.written version) = .ok () ∧
    (content.written version).plainText = s.version
  /-- The text is two integers with a point between them. -/
  pieces : ∃ major minor, Text.split (.char '.') s.version = [major, minor] ∧
    Number.readLooseInteger 10 major = .ok v.major ∧
    Number.readLooseInteger 10 minor = .ok v.minor
  /-- The version gate reads the text, and needs no other version in its place. -/
  isRead : Version.ofText? s.version = some v
  number : s.versionNumber = v
  le : toLex (v.major, v.minor) ≤ toLex (0, 2)
  /-- Fluted pillars are refused for the version if it is another one than the latest. -/
  gate : (∃ p ∈ s.pillars, p.isFluted = true) →
    ((∃ id version, s.validate = .error (.tooEarly id version)) ↔ v ≠ ⟨0, 2⟩)

theorem exists_hasVersion {text : List Char} {s : Spec} (h : load text = .ok s) :
    ∃ v, s.HasVersion text v := by
  obtain ⟨content, version, hyaml, hversion, haccepted, htext⟩ := plainText_version_of_load h
  obtain ⟨_, hcheck⟩ := checkVersion_eq_ok_iff.1 haccepted
  rw [htext] at hcheck
  obtain ⟨v, hread, hlate⟩ := (Version.check_eq_ok_iff _).1 hcheck
  have hnumber : s.versionNumber = v := by
    rw [versionNumber, Version.ofTextOrEarliest, hread, Option.getD_some]
  refine ⟨v, ⟨content, version, hyaml, hversion, haccepted, htext⟩,
    Version.ofText?_eq_some_iff.1 hread, hread, hnumber, Version.le_of_before_eq_false hlate, ?_⟩
  rintro ⟨p, hp, hfluted⟩
  have hgate := Version.before_latest_iff hlate
  simp only [validate_eq_tooEarly_iff, tooEarly?_eq_some_iff, hnumber, hgate]
  constructor
  · rintro ⟨_, _, hother, _⟩
    exact hother
  · intro hother
    obtain ⟨first, hfirst⟩ := Option.isSome_iff_exists.1
      (List.find?_isSome.2 ⟨p, hp, hfluted⟩)
    exact ⟨first.id, s.version, hother, ⟨first, hfirst, rfl⟩, rfl⟩

/-- For every text and every file: a specification that is loaded has the version that was accepted
in its document, and the version gate reads the same two numbers from it. -/
theorem versions_agree (s : Spec) :
    (∀ text, load text = .ok s → ∃ v, s.HasVersion text v) ∧
      ∀ t p, ofFile t p = .ok s → ∃ bytes chars, t.read p = .ok bytes ∧
        Text.Utf8.decode bytes = .ok chars ∧ ∃ v, s.HasVersion (Text.unifyLineEnds chars) v := by
  refine ⟨fun text h => exists_hasVersion h, fun t p h => ?_⟩
  obtain ⟨bytes, hbytes, hspec⟩ := ofFile_eq_ok_iff.1 h
  obtain ⟨chars, hchars, hload⟩ := ofBytes_eq_ok_iff.1 hspec
  exact ⟨bytes, chars, hbytes, hchars, exists_hasVersion hload⟩

/-- A version with a sign, blanks, a digit of another script and an underscore. -/
def oddVersion : String :=
  "version: ' +0.\u0660_1 '\npillars:\n- \x7bid: c, type: fluted\x7d\n"

/-- It is the version 0.1, from a text as well as from a file, and has no fluted pillars. -/
theorem versions_agree_odd :
    let t : Files.Tree := { files := [(["a"], Text.Utf8.encode oddVersion)] }
    (∃ s, load oddVersion.toList = .ok s ∧ s.HasVersion oddVersion.toList ⟨0, 1⟩ ∧
      ∃ id version, s.validate = .error (.tooEarly id version)) ∧
    ∃ s chars v, ofFile t ⟨.relative, ["a"]⟩ = .ok s ∧ s.HasVersion (Text.unifyLineEnds chars) v := by
  intro t
  have hloads : (load oddVersion.toList).toOption.any (fun s =>
      Version.ofText? s.version == some ⟨0, 1⟩ && s.pillars.any Pillar.isFluted) = true := by
    decide +kernel
  have hfile : (ofFile t ⟨.relative, ["a"]⟩).toOption.isSome = true := by decide +kernel
  constructor
  · cases h : load oddVersion.toList with
    | error cause =>
      rw [h] at hloads
      cases hloads
    | ok s =>
      rw [h] at hloads
      obtain ⟨hread, hfluted⟩ := Bool.and_eq_true_iff.1 hloads
      obtain ⟨v, hv⟩ := (versions_agree s).1 _ h
      have hodd : v = ⟨0, 1⟩ := Option.some.inj (hv.isRead.symm.trans (eq_of_beq hread))
      subst hodd
      exact ⟨s, rfl, hv, (hv.gate (List.any_eq_true.1 hfluted)).2 (by decide)⟩
  · cases h : ofFile t ⟨.relative, ["a"]⟩ with
    | error cause =>
      rw [h] at hfile
      cases hfile
    | ok s =>
      obtain ⟨_, chars, _, _, v, hv⟩ := (versions_agree s).2 _ _ h
      exact ⟨s, chars, v, rfl, hv⟩

end Spec

end Colonnade

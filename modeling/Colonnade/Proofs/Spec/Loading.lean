import Colonnade.Cli.Run
import Colonnade.Proofs.Text.Utf8

/-!
# Which faults of a source are reported

Reading a specification from a text or a file gives the specification or one fault, and the fault is
reported in one message only if one of the stages foresees it.  `FailsAs` says of a computation that
all its faults are of one kind; it goes through the stages one by one, and what each stage needs for
its faults to be reported is collected in `IsReadable`.

The faults that no stage foresees are those of single values (an integer beyond the limit, a day that
does not exist, a key that is a list), a version that cannot be written, a field name that is no text,
bytes that store no text, and a path with a zero byte.
-/

namespace Colonnade

variable {ε δ α β : Type}

/-! ## Faults of one kind -/

/-- Whatever a computation fails with is of a kind. -/
def FailsAs (kind : ε → Bool) (r : Except ε α) : Prop :=
  ∀ cause, r = .error cause → kind cause = true

theorem failsAs_ok {kind : ε → Bool} (a : α) : FailsAs kind (.ok a) := by
  intro cause h
  cases h

theorem failsAs_error_iff {kind : ε → Bool} {cause : ε} :
    FailsAs kind (.error cause : Except ε α) ↔ kind cause = true := by
  refine ⟨fun h => h cause rfl, fun h other hother => ?_⟩
  cases hother
  exact h

instance (kind : ε → Bool) : (r : Except ε α) → Decidable (FailsAs kind r)
  | .ok a => .isTrue (failsAs_ok a)
  | .error cause => decidable_of_iff (kind cause = true) failsAs_error_iff.symm

theorem failsAs_mapError_iff {kind : δ → Bool} {f : ε → δ} {r : Except ε α} :
    FailsAs kind (r.mapError f) ↔ FailsAs (fun cause => kind (f cause)) r := by
  refine ⟨fun h cause hcause => h _ (mapError_eq_error_iff.2 ⟨cause, hcause, rfl⟩), ?_⟩
  rintro h d hd
  obtain ⟨cause, hcause, rfl⟩ := mapError_eq_error_iff.1 hd
  exact h cause hcause

/-- A sequence fails in its first part, or in its second part for the value of the first. -/
theorem failsAs_bind_iff {kind : ε → Bool} {r : Except ε α} {next : α → Except ε β} :
    FailsAs kind (r >>= next) ↔ FailsAs kind r ∧ ∀ a, r = .ok a → FailsAs kind (next a) := by
  constructor
  · exact fun h => ⟨fun cause hcause => h cause (except_bind_eq_error_iff.2 (.inl hcause)),
      fun a ha cause hcause => h cause (except_bind_eq_error_iff.2 (.inr ⟨a, ha, hcause⟩))⟩
  · rintro ⟨hfirst, hnext⟩ cause hcause
    rcases except_bind_eq_error_iff.1 hcause with h | ⟨a, ha, h⟩
    · exact hfirst cause h
    · exact hnext a ha cause h

open Cli.Failure (reportsDocument reportsSource)

namespace Spec

open Document (Content Member Value)

/-! ## The stages of loading -/

/-- The member that a document names as its version. -/
def version? (content : Content) : Option Member :=
  content.pairs?.bind (Member.lookup? (.scalar 0 (.text "version")))

/-- A text whose faults, if it has any, are all reported. -/
structure IsReadable (text : List Char) : Prop where
  /-- If it holds no values, it is no document. -/
  values : ∀ fault, Yaml.load text = .error fault → ∃ level, fault = .malformed level
  /-- The version can be written. -/
  version : ∀ content version, Yaml.load text = .ok content → version? content = some version →
    (content.written version).holdsTooLarge = false
  /-- Once the version is accepted, all keys are names. -/
  names : ∀ content, loadContent text = .ok content →
    ∀ pair ∈ fieldsOf content, isFieldName pair.1 = true

theorem failsAs_yaml_iff {text : List Char} :
    FailsAs reportsDocument ((Yaml.load text).mapError .yaml) ↔
      ∀ fault, Yaml.load text = .error fault → ∃ level, fault = .malformed level := by
  rw [failsAs_mapError_iff]
  refine forall_congr' fun fault => imp_congr_right fun _ => ?_
  cases fault <;> simp [reportsDocument]

theorem failsAs_checkVersion_iff {version : Value} :
    FailsAs reportsDocument (checkVersion version) ↔ version.holdsTooLarge = false := by
  unfold checkVersion
  cases version.holdsTooLarge with
  | true =>
    rw [if_pos rfl, failsAs_error_iff]
    simp [reportsDocument]
  | false =>
    refine iff_of_true ?_ rfl
    rw [if_neg Bool.false_ne_true]
    exact failsAs_mapError_iff.2 fun _ _ => rfl

/-- A missing version is reported; one that is there has to be written first. -/
theorem failsAs_checkContent_iff {content : Content} :
    FailsAs reportsDocument (checkContent content) ↔
      ∀ version, version? content = some version →
        (content.written version).holdsTooLarge = false := by
  unfold checkContent version?
  cases content.pairs? with
  | none => exact iff_of_true (failsAs_error_iff.2 rfl) fun _ h => nomatch h
  | some pairs =>
    simp only [Option.bind_some]
    split
    case h_1 hnone =>
      rw [hnone]
      exact iff_of_true (failsAs_error_iff.2 rfl) fun _ h => nomatch h
    case h_2 origin hnull =>
      rw [hnull]
      refine iff_of_true (failsAs_error_iff.2 rfl) fun version h => ?_
      cases h
      rfl
    case h_3 version _ hversion =>
      rw [hversion, failsAs_checkVersion_iff]
      exact ⟨fun h other hother => by cases hother; exact h, fun h => h version rfl⟩

theorem failsAs_loadContent_iff {text : List Char} :
    FailsAs reportsDocument (loadContent text) ↔
      (∀ fault, Yaml.load text = .error fault → ∃ level, fault = .malformed level) ∧
      ∀ content version, Yaml.load text = .ok content → version? content = some version →
        (content.written version).holdsTooLarge = false := by
  unfold loadContent
  rw [failsAs_bind_iff, failsAs_yaml_iff]
  refine and_congr_right fun _ => ?_
  constructor
  · intro h content version hload
    have hchecked := failsAs_bind_iff.1 (h content (mapError_eq_ok_iff.2 hload))
    exact failsAs_checkContent_iff.1 hchecked.1 version
  · intro h content hload
    refine failsAs_bind_iff.2 ⟨failsAs_checkContent_iff.2 fun version => ?_, fun _ _ => failsAs_ok _⟩
    exact h content version (mapError_eq_ok_iff.1 hload)

theorem failsAs_ofFields_iff {pairs : Schema.Reader.Pairs} :
    FailsAs reportsDocument (ofFields pairs) ↔ ∀ pair ∈ pairs, isFieldName pair.1 = true := by
  unfold ofFields
  rw [← List.all_eq_true]
  cases pairs.all fun pair => isFieldName pair.1 with
  | true =>
    refine iff_of_true ?_ rfl
    rw [if_pos rfl]
    cases readFields pairs with
    | ok s => exact failsAs_ok s
    | error problems => exact failsAs_error_iff.2 rfl
  | false =>
    rw [if_neg Bool.false_ne_true, failsAs_error_iff]
    rfl

/-- The faults of loading a text are all reported exactly if the text is readable. -/
theorem failsAs_load_iff {text : List Char} :
    FailsAs reportsDocument (load text) ↔ IsReadable text := by
  unfold load
  rw [failsAs_bind_iff, failsAs_loadContent_iff]
  simp only [failsAs_ofFields_iff]
  exact ⟨fun ⟨⟨hvalues, hversion⟩, hnames⟩ => ⟨hvalues, hversion, hnames⟩,
    fun h => ⟨⟨h.values, h.version⟩, h.names⟩⟩

end Spec

/-! ## Files -/

namespace Files.Tree

/-- Following names does not look into them. -/
theorem follow_ne_zeroByte (t : Tree) (here : Location) (names : List String) :
    t.follow here names ≠ .error .zeroByte := by
  induction names generalizing here with
  | nil => simp [follow]
  | cons name rest ih =>
    unfold follow
    dsimp only
    repeat' split
    all_goals first | exact ih _ | simp

/-- A path that leads nowhere is refused for a zero byte exactly if it has one. -/
theorem locate_eq_zeroByte_iff (t : Tree) (p : Path) :
    t.locate p = .error .zeroByte ↔ hasZero p.text = true := by
  unfold locate
  cases hasZero p.text with
  | true => simp
  | false =>
    refine iff_of_false ?_ Bool.false_ne_true
    rw [if_neg Bool.false_ne_true]
    split
    · simp
    · exact follow_ne_zeroByte t _ _

theorem failsAs_read_iff (t : Tree) (p : Path) :
    FailsAs (fun fault : Fault => fault.cause != .zeroByte) (t.read p) ↔ hasZero p.text = false := by
  rw [← Bool.not_eq_true, ← locate_eq_zeroByte_iff t p]
  unfold read
  cases t.locate p with
  | error cause =>
    rw [failsAs_error_iff]
    simp
  | ok l =>
    refine iff_of_true ?_ (by simp)
    dsimp only
    repeat' split
    all_goals first | exact failsAs_ok _ | exact failsAs_error_iff.2 rfl

end Files.Tree

namespace Spec

theorem ofBytes_eq_ok_iff {bytes : List UInt8} {s : Spec} : ofBytes bytes = .ok s ↔
    ∃ chars, Text.Utf8.decode bytes = .ok chars ∧ load (Text.unifyLineEnds chars) = .ok s := by
  unfold ofBytes
  rw [except_bind_eq_ok_iff]
  simp only [mapError_eq_ok_iff]

theorem ofFile_eq_ok_iff {t : Files.Tree} {p : Files.Path} {s : Spec} : ofFile t p = .ok s ↔
    ∃ bytes, t.read p = .ok bytes ∧ ofBytes bytes = .ok s := by
  unfold ofFile
  rw [except_bind_eq_ok_iff]
  simp only [mapError_eq_ok_iff]

/-- The faults of bytes are all reported exactly if they store a readable text. -/
theorem failsAs_ofBytes_iff {bytes : List UInt8} :
    FailsAs reportsSource (ofBytes bytes) ↔
      ∃ chars, bytes = Text.Utf8.storedText chars ∧ IsReadable (Text.unifyLineEnds chars) := by
  unfold ofBytes
  rw [failsAs_bind_iff]
  simp only [failsAs_mapError_iff, mapError_eq_ok_iff, reportsSource, ← Text.Utf8.decode_eq_ok_iff,
    ← failsAs_load_iff]
  cases Text.Utf8.decode bytes with
  | error cause =>
    refine iff_of_false (fun h => ?_) fun ⟨_, h, _⟩ => nomatch h
    exact Bool.false_ne_true (failsAs_error_iff.1 h.1)
  | ok chars =>
    constructor
    · exact fun h => ⟨chars, rfl, h.2 chars rfl⟩
    · rintro ⟨others, hothers, h⟩
      cases hothers
      refine ⟨failsAs_ok _, fun others hothers => ?_⟩
      cases hothers
      exact h

/-- All faults of a source are reported exactly if it is a readable text, or a path without a zero
byte to bytes that store a readable text. -/
theorem reports_faults_iff (text : List Char) (t : Files.Tree) (p : Files.Path) :
    (FailsAs reportsDocument (load text) ↔ IsReadable text) ∧
      (FailsAs reportsSource (ofFile t p) ↔
        Files.hasZero p.text = false ∧ ∀ bytes, t.read p = .ok bytes →
          ∃ chars, bytes = Text.Utf8.storedText chars ∧
            IsReadable (Text.unifyLineEnds chars)) := by
  refine ⟨failsAs_load_iff, ?_⟩
  unfold ofFile
  rw [failsAs_bind_iff, failsAs_mapError_iff]
  refine and_congr (Files.Tree.failsAs_read_iff t p) (forall_congr' fun bytes => ?_)
  rw [mapError_eq_ok_iff, failsAs_ofBytes_iff]

/-- A document with a version and no pillars is readable. -/
example : IsReadable "version: '0.2'\npillars: []\n".toList :=
  failsAs_load_iff.1 (by decide +kernel)

/-- A directory with one file, whose last value begins with a byte that begins no character. -/
def strayByte : Files.Tree where
  files := [(["a"], [
    0x76, 0x65, 0x72, 0x73, 0x69, 0x6F, 0x6E, 0x3A, 0x20, 0x22, 0x30, 0x2E, 0x32, 0x22, 0x0A,
    0x75, 0x6E, 0x69, 0x74, 0x73, 0x3A, 0x20, 0xFF, 0x0A])]

/-- Neither a text nor a file is always read or refused with a report: a number may stand as the name
of a field, and bytes may store no text. -/
theorem not_reports_faults :
    ¬FailsAs reportsDocument (load "version: '0.2'\n1: 2\n".toList) ∧
      ¬FailsAs reportsSource (ofFile strayByte ⟨.relative, ["a"]⟩) := by
  decide +kernel

end Spec

end Colonnade

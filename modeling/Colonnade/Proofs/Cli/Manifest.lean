import Colonnade.Proofs.Cli.Build
import Colonnade.Proofs.Spec.Generation
import Colonnade.Proofs.Spec.Loading

/-!
# What a manifest says about a build

A manifest is made after the scene file is written, and it reads both files again.  So the record of
the input is that of the document that was built exactly as long as the scene file has not taken its
place; a build that writes its scene over its own input records the scene twice.
-/

namespace Colonnade

namespace Manifest

/-- A manifest that says of two files with certain contents that they are the input and the output of
a build of some pillars, and lists the sizes of their meshes. -/
structure Describes (m : Manifest) (policy : Policy) (ps : List Pillar) (input : Files.Path)
    (document : List UInt8) (output : Files.Path) (scene : List UInt8) : Prop where
  input : m.input = ⟨input, (Digest.Sha256.digest document).text⟩
  output : m.output = ⟨output, (Digest.Sha256.digest scene).text⟩
  /-- Every pillar is listed in its place, with the size of its mesh. -/
  pillars : List.Forall₂ (fun p entry => ∃ mesh, (p.generate.run policy).result = .ok mesh ∧
    entry = ⟨p.id, p.label, mesh.vertexCount, mesh.triangleCount⟩) ps m.pillars

theorem fileEntry_eq_ok_iff {t : Files.Tree} {p : Files.Path} {e : FileEntry} :
    FileEntry.of t p = .ok e ↔
      ∃ bytes, t.read p = .ok bytes ∧ e = ⟨p, (Digest.Sha256.digest bytes).text⟩ := by
  unfold FileEntry.of
  cases t.read p with
  | error cause => exact iff_of_false (fun h => nomatch h) fun ⟨_, h, _⟩ => nomatch h
  | ok bytes => simp [Except.map, eq_comm]

/-- A manifest is made of what is read at its two paths. -/
theorem of_eq_ok_iff {s : Surroundings} {t : Files.Tree} {input output : Files.Path}
    {gs : List Generated} {arguments : Option (List String)} {m : Manifest} :
    of s t input output gs arguments = .ok m ↔ ∃ document scene, t.read input = .ok document ∧
      t.read output = .ok scene ∧
      m = ⟨s, ⟨input, (Digest.Sha256.digest document).text⟩,
        ⟨output, (Digest.Sha256.digest scene).text⟩, gs.map PillarEntry.of, arguments⟩ := by
  unfold of
  simp only [except_bind_eq_ok_iff, fileEntry_eq_ok_iff]
  constructor
  · rintro ⟨_, ⟨document, hdocument, rfl⟩, _, ⟨scene, hscene, rfl⟩, hpure⟩
    cases hpure
    exact ⟨document, scene, hdocument, hscene, rfl⟩
  · rintro ⟨document, scene, hdocument, hscene, rfl⟩
    exact ⟨_, ⟨document, hdocument, rfl⟩, _, ⟨scene, hscene, rfl⟩, rfl⟩

/-- The records of pillars that were generated. -/
theorem forall₂_entries {spec : Spec} {policy : Policy} {gs : List Generated}
    (h : (spec.generate.run policy).result = .ok gs) :
    List.Forall₂ (fun p entry => ∃ mesh, (p.generate.run policy).result = .ok mesh ∧
      entry = ⟨p.id, p.label, mesh.vertexCount, mesh.triangleCount⟩) spec.pillars
      (gs.map PillarEntry.of) := by
  rw [List.forall₂_map_right_iff]
  refine (Spec.forall₂_of_generate h).imp ?_
  rintro p g ⟨rfl, hmesh⟩
  exact ⟨g.mesh, hmesh, rfl⟩

end Manifest

namespace Cli

variable {s : Surroundings} {arguments : List String} {t u : Files.Tree}
  {input target path : Files.Path} {lists : CodeLists}

/-- A build with a manifest leaves the scene, and then the manifest.  The manifest says of the input
what is there by then: the document, or the scene if it is in the same place. -/
theorem Builds.exists_manifest
    (h : Builds s arguments t input target (some path) lists (.ok ()) u) :
    ∃ policy spec gs scene document l k, ∃ m : Manifest,
      Stages t input lists policy spec gs scene ∧
      t.read input = .ok document ∧ t.locate target = .ok l ∧ t.locate path = .ok k ∧
      u = (t.addFile l scene).addFile k (Text.Utf8.encode m.text) ∧
      (t.locate target ≠ t.locate input →
        m.Describes policy spec.pillars input document target scene) ∧
      (t.locate target = t.locate input →
        m.Describes policy spec.pillars input scene target scene) := by
  cases h with
  | scene _ _ hmanifest => cases hmanifest
  | @both policy spec gs scene l path m k hstages hl hmanifest hm hk =>
    cases hmanifest
    obtain ⟨document, hdocument, _⟩ := Spec.ofFile_eq_ok_iff.1 hstages.source
    obtain ⟨first, second, hfirst, hsecond, rfl⟩ := Manifest.of_eq_ok_iff.1 hm
    obtain ⟨i, hi, _, hfirst⟩ := Files.Tree.read_addFile_eq_ok_iff.1 hfirst
    obtain ⟨j, hj, _, hsecond⟩ := Files.Tree.read_addFile_eq_ok_iff.1 hsecond
    have hjl : j = l := Except.ok.inj (hj.symm.trans hl)
    rw [if_pos hjl, Option.some.injEq] at hsecond
    subst hsecond
    have hpillars := Manifest.forall₂_entries hstages.generated
    refine ⟨policy, spec, gs, scene, document, l, k, _, hstages, hdocument, hl, hk, rfl, ?_, ?_⟩
    · -- The input is still the document.
      intro hne
      have hil : i ≠ l := by
        rintro rfl
        exact hne (hl.trans hi.symm)
      rw [if_neg hil] at hfirst
      obtain ⟨i', hi', _, hcontent⟩ := Files.Tree.read_eq_ok_iff.1 hdocument
      have hii : i' = i := Except.ok.inj (hi'.symm.trans hi)
      rw [hii, hfirst, Option.some.injEq] at hcontent
      exact ⟨by rw [hcontent], rfl, hpillars⟩
    · -- The scene has taken the place of the document.
      intro heq
      have hil : i = l := Except.ok.inj (hi.symm.trans (heq.symm.trans hl))
      rw [if_pos hil, Option.some.injEq] at hfirst
      exact ⟨by rw [hfirst], rfl, hpillars⟩

/-- For all files and command lines: the manifest of a build that does not fail says what the scene
file holds and how large the meshes of all pillars are, in order.  It says what the document was that
was built, unless the scene is written in the place of the document: then it says of the input what
it says of the scene.  Without a given target that is never so. -/
theorem run_build_describes (s : Surroundings) (t : Files.Tree) (arguments : List String)
    (input path : Files.Path) (output : Option Files.Path) (lists : CodeLists)
    (horder : Order.of toolVersion t arguments =
      .ok (.request (.build input output (some path) lists)))
    (hcode : (run s t arguments).exitCode = 0) :
    let target := output.getD (defaultOutput input)
    ∃ policy spec gs scene document k, ∃ m : Manifest,
      Stages t input lists policy spec gs scene ∧
      t.read input = .ok document ∧ Spec.ofBytes document = .ok spec ∧ t.locate path = .ok k ∧
      (run s t arguments).files.content? k = some (Text.Utf8.encode m.text) ∧
      (t.locate target ≠ t.locate input →
        m.Describes policy spec.pillars input document target scene) ∧
      (t.locate target = t.locate input →
        m.Describes policy spec.pillars input scene target scene) ∧
      (output = none → t.locate target ≠ t.locate input) := by
  intro target
  obtain ⟨policy, spec, gs, scene, document, l, k, m, hstages, hdocument, hl, hk, hfiles, hother,
    hsame⟩ := (builds_run horder hcode).exists_manifest
  obtain ⟨bytes, hbytes, hspec⟩ := Spec.ofFile_eq_ok_iff.1 hstages.source
  have hread : bytes = document := Except.ok.inj (hbytes.symm.trans hdocument)
  subst hread
  refine ⟨policy, spec, gs, scene, bytes, k, m, hstages, hdocument, hspec, hk, ?_, hother, hsame, ?_⟩
  · rw [hfiles, Files.Tree.content?_addFile_self]
  · rintro rfl heq
    exact ne_of_locate_defaultOutput (heq.symm.trans hl) hl rfl

/-- A build beside its input: the manifest has the digest of the document. -/
theorem run_build_describes_lone_point :
    let r := run ⟨"", none, ""⟩ lonePoint ["build", "a.yaml", "--emit-manifest", "m"]
    r.exitCode = 0 ∧ ∃ policy document scene, ∃ ps : List Pillar, ∃ m : Manifest,
      lonePoint.read ⟨.relative, ["a.yaml"]⟩ = .ok document ∧
      r.files.content? ["m"] = some (Text.Utf8.encode m.text) ∧
      m.Describes policy ps ⟨.relative, ["a.yaml"]⟩ document ⟨.relative, ["a.glb"]⟩ scene := by
  intro r
  have hcode : r.exitCode = 0 := by decide +kernel
  have horder : Order.of toolVersion lonePoint ["build", "a.yaml", "--emit-manifest", "m"] =
      .ok (.request (.build ⟨.relative, ["a.yaml"]⟩ none (some ⟨.relative, ["m"]⟩) {})) := by
    decide +kernel
  have hmanifest : lonePoint.locate ⟨.relative, ["m"]⟩ = .ok ["m"] := by decide +kernel
  obtain ⟨policy, spec, gs, scene, document, k, m, _, hdocument, _, hk, hcontent, hother, _, hne⟩ :=
    run_build_describes _ _ _ _ _ _ _ horder hcode
  have hplace : k = ["m"] := Except.ok.inj (hk.symm.trans hmanifest)
  subst hplace
  exact ⟨hcode, policy, document, scene, spec.pillars, m, hdocument, hcontent, hother (hne rfl)⟩

/-- A build over its input: the manifest has another digest than that of the document. -/
theorem not_describes_overwritten :
    let r := run ⟨"", none, ""⟩ lonePoint
      ["build", "a.yaml", "-o", "a.yaml", "--emit-manifest", "m"]
    r.exitCode = 0 ∧ ∃ document, ∃ m : Manifest,
      lonePoint.read ⟨.relative, ["a.yaml"]⟩ = .ok document ∧
      r.files.content? ["m"] = some (Text.Utf8.encode m.text) ∧
      m.input.path = ⟨.relative, ["a.yaml"]⟩ ∧
      m.input.digest ≠ (Digest.Sha256.digest document).text := by
  intro r
  obtain ⟨hcode, hdigests⟩ : r.exitCode = 0 ∧ (r.files.content? ["a.yaml"]).all (fun scene =>
      (lonePoint.content? ["a.yaml"]).all fun document =>
        (Digest.Sha256.digest scene).text != (Digest.Sha256.digest document).text) = true := by
    decide +kernel
  have horder : Order.of toolVersion lonePoint
      ["build", "a.yaml", "-o", "a.yaml", "--emit-manifest", "m"] =
        .ok (.request (.build ⟨.relative, ["a.yaml"]⟩ (some ⟨.relative, ["a.yaml"]⟩)
          (some ⟨.relative, ["m"]⟩) {})) := by
    decide +kernel
  have hmanifest : lonePoint.locate ⟨.relative, ["m"]⟩ = .ok ["m"] := by decide +kernel
  have hinput : lonePoint.locate ⟨.relative, ["a.yaml"]⟩ = .ok ["a.yaml"] := by decide +kernel
  obtain ⟨_, _, _, scene, document, l, k, m, _, hdocument, hl, hk, hfiles, _, hsame⟩ :=
    (builds_run horder hcode).exists_manifest
  obtain ⟨hentry, _, _⟩ := hsame rfl
  have hplace : l = ["a.yaml"] := Except.ok.inj (hl.symm.trans hinput)
  have hbeside : k = ["m"] := Except.ok.inj (hk.symm.trans hmanifest)
  subst hplace hbeside
  have hscene : r.files.content? ["a.yaml"] = some scene := by
    rw [hfiles, Files.Tree.content?_addFile_of_ne (by decide), Files.Tree.content?_addFile_self]
  obtain ⟨i, hi, _, hcontent⟩ := Files.Tree.read_eq_ok_iff.1 hdocument
  have hroot : i = ["a.yaml"] := Except.ok.inj (hi.symm.trans hinput)
  subst hroot
  rw [hscene, hcontent] at hdigests
  refine ⟨hcode, document, m, hdocument, ?_, ?_, ?_⟩
  · rw [hfiles, Files.Tree.content?_addFile_self]
  · rw [hentry]
  · rw [hentry]
    simpa using hdigests

end Cli

end Colonnade

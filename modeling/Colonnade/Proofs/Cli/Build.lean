import Colonnade.Proofs.Cli.Step
import Colonnade.Proofs.Files.Tree
import Colonnade.Proofs.Warning.Run

/-!
# What a build changes

A build ends in one of four ways (`Builds`): it fails and changes no file, it writes a scene file,
or it writes a scene file and then writes a manifest or fails to.  `builds_buildScene` follows the
steps of a build to find which, and everything else is a case analysis on the four.

What the scene file is called follows from the name of the input.  Four endings are cut off, which
overlap, but whichever it is, the name that is left and `.glb` never make the same name again
(`stemOf_append_ne`).
-/

namespace Colonnade

theorem Gltf.write_eq_ok_iff {t u : Files.Tree} {p : Files.Path} {gs : List Generated} :
    Gltf.write t p gs = .ok u ↔ ∃ bytes l, Gltf.encode gs = .ok bytes ∧ t.locate p = .ok l ∧
      t.isDirectory l = false ∧ u = t.addFile l bytes := by
  rw [Gltf.write, except_bind_eq_ok_iff]
  simp only [mapError_eq_ok_iff, Files.Tree.write_eq_ok_iff, exists_and_left]

namespace Cli

open Step

/-- The way from the specification in a file to the bytes of its scene file, where nothing fails. -/
structure Stages (t : Files.Tree) (input : Files.Path) (lists : CodeLists) (policy : Policy)
    (spec : Spec) (gs : List Generated) (bytes : List UInt8) : Prop where
  selected : lists.policy = .ok policy
  source : Spec.ofFile t input = .ok spec
  valid : spec.validate = .ok ()
  generated : (spec.generate.run policy).result = .ok gs
  encoded : Gltf.encode gs = .ok bytes

/-- How a build ends, and what files it leaves. -/
inductive Builds (s : Surroundings) (arguments : List String) (t : Files.Tree)
    (input target : Files.Path) (manifest : Option Files.Path) (lists : CodeLists) :
    Except Failure Unit → Files.Tree → Prop where
  | failed {f : Failure} (hf : ∀ cause, f ≠ .manifest cause) :
    Builds s arguments t input target manifest lists (.error f) t
  | scene {policy spec gs bytes l} (hstages : Stages t input lists policy spec gs bytes)
    (hl : t.locate target = .ok l) (hmanifest : manifest = none) :
    Builds s arguments t input target manifest lists (.ok ()) (t.addFile l bytes)
  | sceneOnly {policy spec gs bytes l path cause}
    (hstages : Stages t input lists policy spec gs bytes) (hl : t.locate target = .ok l)
    (hmanifest : manifest = some path) :
    Builds s arguments t input target manifest lists (.error (.manifest cause)) (t.addFile l bytes)
  | both {policy spec gs bytes l path m k}
    (hstages : Stages t input lists policy spec gs bytes) (hl : t.locate target = .ok l)
    (hmanifest : manifest = some path)
    (hm : Manifest.of s (t.addFile l bytes) input target gs (some arguments) = .ok m)
    (hk : t.locate path = .ok k) :
    Builds s arguments t input target manifest lists (.ok ())
      ((t.addFile l bytes).addFile k (Text.Utf8.encode m.text))

/-- Writing a manifest fails and changes nothing, or adds a file. -/
theorem writeManifest_cases (s : Surroundings) (arguments : List String)
    (input output path : Files.Path) (gs : List Generated) (w : World) :
    (∃ cause, (writeManifest s arguments input output path gs).exec w =
      (.error (.manifest cause), w)) ∨
    ∃ m k, Manifest.of s w.files input output gs (some arguments) = .ok m ∧
      w.files.locate path = .ok k ∧
      (writeManifest s arguments input output path gs).exec w =
        (.ok (), { w with files := w.files.addFile k (Text.Utf8.encode m.text) }) := by
  rw [writeManifest, exec_files_bind, exec_ofExcept_bind]
  cases hm : Manifest.of s w.files input output gs (some arguments) with
  | error cause => exact .inl ⟨cause, rfl⟩
  | ok m =>
    dsimp only
    rw [exec_files_bind, exec_ofExcept_bind]
    cases hwrite : w.files.write path (Text.Utf8.encode m.text) with
    | error cause => exact .inl ⟨cause, rfl⟩
    | ok t =>
      obtain ⟨k, hk, _, rfl⟩ := Files.Tree.write_eq_ok_iff.1 hwrite
      exact .inr ⟨m, k, rfl, hk, rfl⟩

/-- What a build does is one of four things. -/
theorem builds_buildScene (s : Surroundings) (arguments : List String) (input : Files.Path)
    (output manifest : Option Files.Path) (lists : CodeLists) (w : World) :
    Builds s arguments w.files input (output.getD (defaultOutput input)) manifest lists
      ((buildScene s arguments input output manifest lists).exec w).1
      ((buildScene s arguments input output manifest lists).exec w).2.files := by
  -- Until the scene file is written there is nothing to undo: each fault leaves the files as given.
  rw [buildScene, exec_ofExcept_bind]
  cases hpolicy : lists.policy with
  | error cause => exact .failed fun _ h => nomatch h
  | ok policy =>
    dsimp only
    rw [exec_loadSpec_bind]
    cases hsource : Spec.ofFile w.files input with
    | error cause => exact .failed fun _ h => nomatch h
    | ok spec =>
      dsimp only
      cases hvalid : spec.validate with
      | error cause => exact .failed fun _ h => nomatch h
      | ok _ =>
        dsimp only
        rw [exec_ofReport_bind]
        cases hgenerated : (spec.generate.run policy).result with
        | error stop => exact .failed fun _ h => nomatch h
        | ok gs =>
          dsimp only
          rw [exec_files_bind, exec_ofExcept_bind]
          dsimp only
          cases hwrite : Gltf.write w.files (output.getD (defaultOutput input)) gs with
          | error cause => exact .failed fun _ h => nomatch h
          | ok t =>
            dsimp only
            obtain ⟨bytes, l, hencode, hl, _, rfl⟩ := Gltf.write_eq_ok_iff.1 hwrite
            have hstages : Stages w.files input lists policy spec gs bytes :=
              ⟨hpolicy, hsource, hvalid, hgenerated, hencode⟩
            rw [exec_putFiles_bind]
            cases manifest with
            | none =>
              simp only [exec_print]
              exact .scene hstages hl rfl
            | some path =>
              dsimp only
              rw [exec_bind]
              obtain ⟨cause, hexec⟩ | ⟨m, k, hm, hk, hexec⟩ := writeManifest_cases s arguments input
                (output.getD (defaultOutput input)) path gs
                { w with
                  files := w.files.addFile l bytes
                  warnings := w.warnings ++ (spec.generate.run policy).warnings }
              · rw [hexec]
                exact .sceneOnly hstages hl rfl
              · rw [hexec]
                dsimp only
                rw [exec_print]
                exact .both hstages hl rfl hm (Files.Tree.locate_addFile_eq_ok_iff.1 hk)

/-! ## What a build leaves -/

/-- The files after a scene file is written at a path, and perhaps a manifest at another: nothing
else is changed, and the scene file has the bytes of the scene unless the manifest took its
place. -/
structure Leaves (t : Files.Tree) (target : Files.Path) (manifest : Option Files.Path)
    (l : Files.Location) (bytes : List UInt8) (u : Files.Tree) : Prop where
  located : t.locate target = .ok l
  start : u.start = t.start
  directories : u.directories = t.directories
  changed : ∀ k, u.content? k ≠ t.content? k →
    k = l ∨ ∃ path, manifest = some path ∧ t.locate path = .ok k
  scene : (∀ path, manifest = some path → t.locate path ≠ .ok l) → u.content? l = some bytes

section Ending

variable {s : Surroundings} {arguments : List String} {t u : Files.Tree} {input target : Files.Path}
  {manifest : Option Files.Path} {lists : CodeLists}

/-- A build that does not fail at its manifest changes no file if it fails. -/
theorem Builds.files_eq {f : Failure}
    (h : Builds s arguments t input target manifest lists (.error f) u)
    (hf : ∀ cause, f ≠ .manifest cause) : u = t := by
  cases h with
  | failed _ => rfl
  | sceneOnly _ _ _ => exact absurd rfl (hf _)

/-- A build that does not fail leaves the scene of the specification. -/
theorem Builds.exists_stages (h : Builds s arguments t input target manifest lists (.ok ()) u) :
    ∃ policy spec gs bytes l, Stages t input lists policy spec gs bytes ∧
      Leaves t target manifest l bytes u := by
  cases h with
  | @scene policy spec gs bytes l hstages hl hmanifest =>
    refine ⟨policy, spec, gs, bytes, l, hstages, hl, rfl, rfl, ?_, ?_⟩
    · intro k hk
      left
      by_contra hkl
      exact hk (Files.Tree.content?_addFile_of_ne hkl bytes)
    · exact fun _ => Files.Tree.content?_addFile_self l bytes
  | @both policy spec gs bytes l path m k hstages hl hmanifest hm hk =>
    refine ⟨policy, spec, gs, bytes, l, hstages, hl, rfl, rfl, ?_, ?_⟩
    · intro j hj
      by_cases hjk : j = k
      · subst hjk
        exact .inr ⟨path, hmanifest, hk⟩
      · left
        by_contra hjl
        rw [Files.Tree.content?_addFile_of_ne hjk, Files.Tree.content?_addFile_of_ne hjl] at hj
        exact hj rfl
    · intro hother
      have hlk : l ≠ k := by
        rintro rfl
        exact hother path hmanifest hk
      rw [Files.Tree.content?_addFile_of_ne hlk, Files.Tree.content?_addFile_self]

end Ending

/-! ## The name of a scene file -/

theorem getLast?_glb (stem : String) : (stem ++ ".glb").toList.getLast? = some 'b' := by
  rw [String.toList_append, List.getLast?_append]
  rfl

/-- No specification file has the name of its scene file: the one ends like no scene file, or the
other is longer. -/
theorem stemOf_append_ne (name : String) : stemOf name ++ ".glb" ≠ name := by
  have hendings : ∀ ending ∈ specEndings, ending.toList.getLast? = some 'l' := by decide
  intro h
  cases hfind : specEndings.find? fun ending => ending.toList.isSuffixOf name.toList with
  | none =>
    have hstem : stemOf name = name := by
      rw [stemOf, hfind]
    rw [hstem] at h
    have hlength := congrArg String.length h
    simp [String.length_append] at hlength
  | some ending =>
    have hsuffix := List.find?_some hfind
    obtain ⟨front, hfront⟩ := List.isSuffixOf_iff_suffix.1 hsuffix
    have hspec : name.toList.getLast? = some 'l' := by
      rw [← hfront, List.getLast?_append, hendings ending (List.mem_of_find?_eq_some hfind)]
      rfl
    have hscene := getLast?_glb (stemOf name)
    rw [h, hspec] at hscene
    exact absurd hscene (by decide)

theorem defaultOutput_ne (input : Files.Path) : defaultOutput input ≠ input := by
  intro h
  have hname := congrArg Files.Path.name h
  rw [defaultOutput, Files.Path.name_withName] at hname
  exact stemOf_append_ne input.name hname

/-- The scene file of an input goes to another place in the same directory. -/
theorem ne_of_locate_defaultOutput {t : Files.Tree} {input : Files.Path} {k l : Files.Location}
    (hk : t.locate input = .ok k) (hl : t.locate (defaultOutput input) = .ok l) : k ≠ l := by
  refine Files.Tree.ne_of_locate_withName ?_ (stemOf_append_ne input.name) hk hl
  intro h
  have hlast := getLast?_glb (stemOf input.name)
  rw [h] at hlast
  exact absurd hlast (by decide)

/-! ## A run of the command line -/

theorem exec_perform (s : Surroundings) (arguments : List String) (w : World) :
    (perform s arguments).exec w =
      match Order.of toolVersion w.files arguments with
      | .error cause => (.error (.refusal cause), w)
      | .ok (.display text) => (print text).exec w
      | .ok (.request r) => (r.perform s arguments).exec w := by
  rw [perform, exec_files_bind, exec_ofExcept_bind]
  cases Order.of toolVersion w.files arguments with
  | error cause => rfl
  | ok order => cases order <;> rfl

section Run

variable {s : Surroundings} {t : Files.Tree} {arguments : List String} {w : World}

theorem run_of_ok (h : (perform s arguments).exec { files := t } = (.ok (), w)) :
    run s t arguments = ⟨0, w.printed, "", w.files, w.warnings, none⟩ := by
  unfold run
  rw [show ((perform s arguments).run).run { files := t } = (.ok (), w) from h]

theorem run_of_error {f : Failure}
    (h : (perform s arguments).exec { files := t } = (.error f, w)) :
    run s t arguments = ⟨f.exitCode, w.printed, Text.withoutSequences f.report, w.files, w.warnings,
      if f.isReported then none else some f⟩ := by
  unfold run
  rw [show ((perform s arguments).run).run { files := t } = (.error f, w) from h]

theorem Failure.exitCode_ne_zero (f : Failure) : f.exitCode ≠ 0 := by
  cases f with
  | refusal cause =>
    rw [exitCode]
    split <;> decide
  | _ => exact Nat.one_ne_zero

/-- What a run of a build does is what the build does. -/
theorem builds_perform {ended : Except Failure Unit} {input : Files.Path}
    {output manifest : Option Files.Path} {lists : CodeLists}
    (horder : Order.of toolVersion t arguments =
      .ok (.request (.build input output manifest lists)))
    (h : (perform s arguments).exec { files := t } = (ended, w)) :
    Builds s arguments t input (output.getD (defaultOutput input)) manifest lists ended
      w.files := by
  have hbuild := builds_buildScene s arguments input output manifest lists { files := t }
  rw [exec_perform, horder] at h
  rw [show (buildScene s arguments input output manifest lists).exec { files := t } = (ended, w)
    from h] at hbuild
  exact hbuild

/-- A run of a build that ends with exit code 0 is a build that does not fail. -/
theorem builds_run {input : Files.Path} {output manifest : Option Files.Path} {lists : CodeLists}
    (horder : Order.of toolVersion t arguments =
      .ok (.request (.build input output manifest lists)))
    (hcode : (run s t arguments).exitCode = 0) :
    Builds s arguments t input (output.getD (defaultOutput input)) manifest lists (.ok ())
      (run s t arguments).files := by
  cases hexec : (perform s arguments).exec { files := t } with
  | mk ended w =>
    cases ended with
    | ok value =>
      rw [run_of_ok hexec]
      exact builds_perform horder hexec
    | error f =>
      rw [run_of_error hexec] at hcode
      exact absurd hcode f.exitCode_ne_zero

/-- A run that fails, but not at a manifest, changes no file. -/
theorem files_eq_of_error {f : Failure} (hf : ∀ cause, f ≠ .manifest cause)
    (h : (perform s arguments).exec { files := t } = (.error f, w)) : w.files = t := by
  cases horder : Order.of toolVersion t arguments with
  | error cause =>
    rw [exec_perform, horder] at h
    cases h
    rfl
  | ok order =>
    cases order with
    | display text =>
      rw [exec_perform, horder] at h
      exact (keepsFiles_print text).files_eq h
    | request r =>
      cases r with
      | build input output manifest lists => exact (builds_perform horder h).files_eq hf
      | inspect input format selected limit lists =>
        rw [exec_perform, horder] at h
        exact (keepsFiles_printInspection input format selected limit lists).files_eq h
      | expand input id rounds =>
        rw [exec_perform, horder] at h
        exact (keepsFiles_printSymbols input id rounds).files_eq h

/-- For all files and command lines: a run that fails, but not at a manifest, changes no file.  A
build that does not fail changes at most the files at its target and at its manifest, and unless
these are the same the target has the bytes of the scene of the specification.  Without a given
target it is beside the input and is never the input itself. -/
theorem run_build_leaves (s : Surroundings) (t : Files.Tree) (arguments : List String) :
    let r := run s t arguments
    (r.exitCode ≠ 0 → (∀ cause, r.unreported ≠ some (.manifest cause)) → r.files = t) ∧
    ∀ input output manifest lists,
      Order.of toolVersion t arguments = .ok (.request (.build input output manifest lists)) →
      let target := output.getD (defaultOutput input)
      (r.exitCode = 0 → ∃ policy spec gs bytes l, Stages t input lists policy spec gs bytes ∧
        Leaves t target manifest l bytes r.files) ∧
      (output = none → target.parent = input.parent ∧ target ≠ input ∧
        ∀ k l, t.locate input = .ok k → t.locate target = .ok l → k ≠ l) := by
  intro r
  cases hexec : (perform s arguments).exec { files := t } with
  | mk ended w =>
    refine ⟨?_, fun input output manifest lists horder => ⟨?_, ?_⟩⟩
    · intro hcode hmanifest
      cases ended with
      | ok value =>
        have hr : r = _ := run_of_ok hexec
        exact absurd (congrArg Result.exitCode hr) hcode
      | error f =>
        have hr : r = _ := run_of_error hexec
        rw [hr] at hmanifest ⊢
        refine files_eq_of_error (fun cause hf => hmanifest cause ?_) hexec
        rw [hf]
        rfl
    · intro hcode
      cases ended with
      | ok value =>
        have hr : r = _ := run_of_ok hexec
        rw [hr]
        exact (builds_perform horder hexec).exists_stages
      | error f =>
        have hr : r = _ := run_of_error hexec
        rw [hr] at hcode
        exact absurd hcode f.exitCode_ne_zero
    · rintro rfl
      exact ⟨Files.Path.parent_withName _ _, defaultOutput_ne input,
        fun k l hk hl => ne_of_locate_defaultOutput hk hl⟩

/-- A file with a pillar of a single point, and another file. -/
def lonePoint : Files.Tree where
  files := [
    (["a.yaml"], Text.Utf8.encode
      "version: '0.2'\npillars:\n- \x7bid: p, type: lsystem, axiom: F, iterations: 0\x7d\n"),
    (["b"], [0])]

/-- A build with a manifest, and a build that stops at a warning. -/
theorem run_build_leaves_lone_point :
    let s : Surroundings := ⟨"", none, ""⟩
    let built := run s lonePoint ["build", "a.yaml", "--emit-manifest", "m"]
    let stopped := run s lonePoint ["build", "a.yaml", "--warn-as-error", "W01"]
    built.exitCode = 0 ∧ (built.files.content? ["a.glb"]).isSome ∧
      (∀ k, built.files.content? k ≠ lonePoint.content? k → k = ["a.glb"] ∨ k = ["m"]) ∧
      stopped.exitCode = 1 ∧ stopped.files = lonePoint := by
  intro s built stopped
  obtain ⟨hcode, hstopped, hnone⟩ : built.exitCode = 0 ∧ stopped.exitCode = 1 ∧
      stopped.unreported.isNone = true := by
    decide +kernel
  have horder : Order.of toolVersion lonePoint ["build", "a.yaml", "--emit-manifest", "m"] =
      .ok (.request (.build ⟨.relative, ["a.yaml"]⟩ none (some ⟨.relative, ["m"]⟩) {})) := by
    decide +kernel
  have hscene : lonePoint.locate (defaultOutput ⟨.relative, ["a.yaml"]⟩) = .ok ["a.glb"] := by
    decide +kernel
  have hmanifest : lonePoint.locate ⟨.relative, ["m"]⟩ = .ok ["m"] := by decide +kernel
  obtain ⟨_, hbuilds⟩ :=
    run_build_leaves s lonePoint ["build", "a.yaml", "--emit-manifest", "m"]
  obtain ⟨policy, spec, gs, bytes, l, _, hleaves⟩ := (hbuilds _ _ _ _ horder).1 hcode
  have hl : l = ["a.glb"] := Except.ok.inj (hleaves.located.symm.trans hscene)
  subst hl
  obtain ⟨hkeeps, _⟩ := run_build_leaves s lonePoint ["build", "a.yaml", "--warn-as-error", "W01"]
  refine ⟨hcode, ?_, ?_, hstopped, hkeeps (by rw [hstopped]; decide) ?_⟩
  · have hother : ∀ path, some (⟨.relative, ["m"]⟩ : Files.Path) = some path →
        lonePoint.locate path ≠ .ok ["a.glb"] := by
      rintro path hpath hk
      cases hpath
      rw [hmanifest] at hk
      exact absurd hk (by decide)
    rw [hleaves.scene hother]
    rfl
  · intro k hk
    rcases hleaves.changed k hk with hk | ⟨path, hpath, hk⟩
    · exact .inl hk
    · cases hpath
      exact .inr (Except.ok.inj (hk.symm.trans hmanifest))
  · intro cause h
    rw [h] at hnone
    exact absurd hnone Bool.false_ne_true

end Run

end Cli

end Colonnade

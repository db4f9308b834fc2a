import Colonnade.Cli.Run

/-!
# The laws of steps

How a step ends and what it leaves follows from its parts: one equation for each way to build a
step, with `Step.exec_bind` for steps in a row.  Most steps keep the files as they are
(`Step.KeepsFiles`), and everything made of such steps does.
-/

namespace Colonnade.Cli

namespace Step

variable {ε α β : Type}

/-- How a step ends, and what it leaves. -/
def exec (m : Step α) (w : World) : Except Failure α × World := (ExceptT.run m).run w

/-! ## Execution -/

theorem exec_bind (m : Step α) (next : α → Step β) (w : World) :
    (m >>= next).exec w =
      match m.exec w with
      | (.ok a, v) => (next a).exec v
      | (.error f, v) => (.error f, v) := by
  unfold exec ExceptT.run StateT.run
  simp only [bind, ExceptT.bind, ExceptT.mk, StateT.bind, ExceptT.bindCont]
  rcases m w with ⟨_ | _, v⟩ <;> rfl

theorem exec_ofExcept (fail : ε → Failure) (r : Except ε α) (w : World) :
    (ofExcept fail r).exec w = (r.mapError fail, w) := by
  cases r <;> rfl

theorem exec_ofReport (fail : Stop ε → Failure) (policy : Policy) (m : Report ε α)
    (w : World) : (ofReport fail policy m).exec w =
      ((m.run policy).result.mapError fail,
        { w with warnings := w.warnings ++ (m.run policy).warnings }) := by
  rw [ofReport, exec_bind]
  exact exec_ofExcept _ _ _

theorem exec_ofExcept_bind (fail : ε → Failure) (r : Except ε α) (next : α → Step β) (w : World) :
    (ofExcept fail r >>= next).exec w =
      match r with
      | .ok a => (next a).exec w
      | .error cause => (.error (fail cause), w) := by
  rw [exec_bind, exec_ofExcept]
  cases r <;> rfl

theorem exec_ofReport_bind (fail : Stop ε → Failure) (policy : Policy) (m : Report ε α)
    (next : α → Step β) (w : World) :
    (ofReport fail policy m >>= next).exec w =
      let v := { w with warnings := w.warnings ++ (m.run policy).warnings }
      match (m.run policy).result with
      | .ok a => (next a).exec v
      | .error stop => (.error (fail stop), v) := by
  rw [exec_bind, exec_ofReport]
  cases (m.run policy).result <;> rfl

theorem exec_files_bind (next : Files.Tree → Step β) (w : World) :
    (files >>= next).exec w = (next w.files).exec w := rfl

theorem exec_putFiles_bind (t : Files.Tree) (next : Unit → Step β) (w : World) :
    (putFiles t >>= next).exec w = (next ()).exec { w with files := t } := rfl

/-- A text without surrogates is printed. -/
theorem exec_print (text : String) (w : World) :
    (print text).exec w =
      (.ok (), { w with printed := w.printed ++ Text.withoutSequences text }) := by
  rw [print, Text.printed_ofText, exec_ofExcept_bind]
  rfl

/-! ## Keeping the files -/

/-- A step that leaves the files as they are, however it ends. -/
def KeepsFiles (m : Step α) : Prop := ∀ w, (m.exec w).2.files = w.files

theorem KeepsFiles.files_eq {m : Step α} (hm : m.KeepsFiles) {ended : Except Failure α}
    {w v : World} (h : m.exec w = (ended, v)) : v.files = w.files := by
  have hw := hm w
  rw [h] at hw
  exact hw

theorem keepsFiles_pure (a : α) : (pure a : Step α).KeepsFiles := fun _ => rfl

theorem keepsFiles_throw (f : Failure) : (throw f : Step α).KeepsFiles := fun _ => rfl

theorem keepsFiles_ofExcept (fail : ε → Failure) (r : Except ε α) :
    (ofExcept fail r).KeepsFiles := by
  intro w
  rw [exec_ofExcept]

theorem keepsFiles_ofReport (fail : Stop ε → Failure) (policy : Policy) (m : Report ε α) :
    (ofReport fail policy m).KeepsFiles := by
  intro w
  rw [exec_ofReport]

theorem keepsFiles_files : files.KeepsFiles := fun _ => rfl

theorem keepsFiles_bind {m : Step α} {next : α → Step β} (hm : m.KeepsFiles)
    (hnext : ∀ a, (next a).KeepsFiles) : (m >>= next).KeepsFiles := by
  intro w
  rw [exec_bind]
  cases hexec : m.exec w with
  | mk ended v =>
    cases ended with
    | error f => exact hm.files_eq hexec
    | ok a => exact (hnext a v).trans (hm.files_eq hexec)

theorem keepsFiles_print (text : Text.Loose) : (print text).KeepsFiles :=
  keepsFiles_bind (keepsFiles_ofExcept _ _) fun _ _ => rfl

end Step

/-! ## Commands -/

open Step

theorem exec_loadSpec_bind {β : Type} (input : Files.Path) (next : Spec → Step β) (w : World) :
    (loadSpec input >>= next).exec w =
      match Spec.ofFile w.files input with
      | .error cause => (.error (.source cause), w)
      | .ok spec =>
        match spec.validate with
        | .error cause => (.error (.spec cause), w)
        | .ok () => (next spec).exec w := by
  rw [exec_bind, loadSpec, exec_files_bind, exec_ofExcept_bind]
  cases Spec.ofFile w.files input with
  | error cause => rfl
  | ok spec =>
    dsimp only
    rw [exec_ofExcept_bind]
    cases spec.validate <;> rfl

theorem keepsFiles_loadSpec (input : Files.Path) : (loadSpec input).KeepsFiles :=
  keepsFiles_bind keepsFiles_files fun _ =>
    keepsFiles_bind (keepsFiles_ofExcept _ _) fun _ =>
      keepsFiles_bind (keepsFiles_ofExcept _ _) fun _ => keepsFiles_pure _

/-- An inspection keeps the files. -/
theorem keepsFiles_printInspection (input : Files.Path) (format : Format) (selected : List String)
    (limit : Nat) (lists : CodeLists) :
    (printInspection input format selected limit lists).KeepsFiles := by
  refine keepsFiles_bind (keepsFiles_ofExcept _ _) fun policy =>
    keepsFiles_bind (keepsFiles_loadSpec input) fun spec => ?_
  dsimp only
  split
  · refine keepsFiles_bind (keepsFiles_ofReport _ _ _) fun found => ?_
    cases format with
    | json => exact keepsFiles_bind (keepsFiles_ofExcept _ _) fun _ => keepsFiles_print _
    | text => exact keepsFiles_bind (keepsFiles_ofExcept _ _) fun _ => keepsFiles_print _
  · exact keepsFiles_throw _

/-- Printing the string of an L-system keeps the files. -/
theorem keepsFiles_printSymbols (input : Files.Path) (id : String) (rounds : Option Nat) :
    (printSymbols input id rounds).KeepsFiles :=
  keepsFiles_bind (keepsFiles_loadSpec input) fun _ =>
    keepsFiles_bind (keepsFiles_ofExcept _ _) fun _ =>
      keepsFiles_bind (keepsFiles_ofReport _ _ _) fun _ =>
        keepsFiles_bind (keepsFiles_ofReport _ _ _) fun _ => keepsFiles_print _

end Colonnade.Cli

import Colonnade.Warning.Code

/-!
# Computations that report warnings

A `Report` is a computation that may report warnings and may fail.  What happens to a warning is
up to a policy: a suppressed code is dropped, a promoted one ends the computation, and any other
is recorded.  Suppression goes before promotion.
-/

namespace Colonnade

/-- What to do with warnings, by the text of their codes.  A text that is no code has no
effect. -/
structure Policy where
  promoted : List String := []
  suppressed : List String := []
  deriving DecidableEq, Repr

namespace Policy

/-- Every warning is recorded. -/
def permissive : Policy := {}

/-- Whether a code's warnings are dropped. -/
def drops (p : Policy) (c : Code) : Bool :=
  p.suppressed.contains c.text

/-- Whether a code's warnings end the computation. -/
def stops (p : Policy) (c : Code) : Bool :=
  !p.drops c && p.promoted.contains c.text

@[simp] theorem permissive_drops (c : Code) : permissive.drops c = false := rfl

@[simp] theorem permissive_stops (c : Code) : permissive.stops c = false := rfl

end Policy

/-- Why a computation ended early: a promoted warning, or a fault of its own. -/
inductive Stop (ε : Type) where
  | promoted (warning : Warning)
  | fault (cause : ε)
  deriving DecidableEq, Repr

/-- The recorded warnings, in order, and how the computation ended. -/
structure Outcome (ε α : Type) where
  warnings : List Warning
  result : Except (Stop ε) α

/-- A computation that reports warnings under a policy. -/
def Report (ε α : Type) : Type := Policy → Outcome ε α

namespace Report

variable {ε δ α β : Type}

/-- The outcome under a policy. -/
def run (m : Report ε α) (p : Policy) : Outcome ε α := m p

/-- A computation without warnings. -/
def ofExcept (r : Except ε α) : Report ε α := fun _ =>
  ⟨[], r.mapError Stop.fault⟩

/-- Fails at once. -/
def fail (cause : ε) : Report ε α := fun _ => ⟨[], .error (.fault cause)⟩

/-- Reports one warning. -/
def warn (w : Warning) : Report ε Unit := fun p =>
  if p.drops w.code then ⟨[], .ok ()⟩
  else if p.stops w.code then ⟨[], .error (.promoted w)⟩
  else ⟨[w], .ok ()⟩

/-- Reports a warning whose code is given as text. -/
def warnByText (code message : String) : Report UnregisteredCode Unit :=
  match Code.ofText? code with
  | none => fail ⟨code⟩
  | some c => warn ⟨c, message⟩

/-- Goes on with the value of a computation, after its warnings. -/
protected def bind (m : Report ε α) (next : α → Report ε β) : Report ε β := fun p =>
  match m p with
  | ⟨warnings, .error stop⟩ => ⟨warnings, .error stop⟩
  | ⟨warnings, .ok value⟩ =>
    let rest := next value p
    ⟨warnings ++ rest.warnings, rest.result⟩

instance : Monad (Report ε) where
  pure value := fun _ => ⟨[], .ok value⟩
  bind := Report.bind

/-- Runs a computation for every member of a list, in order. -/
def traverse (f : α → Report ε β) : List α → Report ε (List β)
  | [] => pure []
  | a :: rest => do
    let b ← f a
    let bs ← traverse f rest
    pure (b :: bs)

@[simp] theorem run_pure (value : α) (p : Policy) :
    (pure value : Report ε α).run p = ⟨[], .ok value⟩ := rfl

theorem run_bind (m : Report ε α) (next : α → Report ε β) (p : Policy) :
    (m >>= next).run p =
      match m.run p with
      | ⟨warnings, .error stop⟩ => ⟨warnings, .error stop⟩
      | ⟨warnings, .ok value⟩ =>
        ⟨warnings ++ ((next value).run p).warnings, ((next value).run p).result⟩ := rfl

theorem run_warn (w : Warning) (p : Policy) :
    (warn w : Report ε Unit).run p =
      if p.drops w.code then ⟨[], .ok ()⟩
      else if p.stops w.code then ⟨[], .error (.promoted w)⟩
      else ⟨[w], .ok ()⟩ := rfl

end Report

end Colonnade

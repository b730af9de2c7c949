import DebugLabels.Failure
import DebugLabels.Notice

/-!
# Steps that tell what they do

A `Logged` step has an outcome, which is a value or a failure, and the notices that were given on
the way to it, in order. A failure ends the steps that follow and keeps the notices before it.

Forgetting the notices is a passage to plain outcomes (`outcome_pure`, `outcome_bind`), so what a
chain of steps computes can be followed without what it tells.
-/

namespace DebugLabels

/-- The outcome of a step and the notices before it. -/
structure Logged (α : Type) where
  notices : List Notice
  outcome : Except Failure α

namespace Logged

/-- One step after another: the second runs on the value of the first, if there is one. -/
def andThen {α β : Type} (first : Logged α) (second : α → Logged β) : Logged β :=
  match first.outcome with
  | .ok value => ⟨first.notices ++ (second value).notices, (second value).outcome⟩
  | .error failure => ⟨first.notices, .error failure⟩

instance : Monad Logged where
  pure value := ⟨[], .ok value⟩
  bind := andThen

/-- Give a notice. -/
def note (notice : Notice) : Logged Unit := ⟨[notice], .ok ()⟩

/-- Give notices. -/
def noteAll (notices : List Notice) : Logged Unit := ⟨notices, .ok ()⟩

/-- A step that tells nothing. -/
def ofExcept {α : Type} (outcome : Except Failure α) : Logged α := ⟨[], outcome⟩

instance : MonadLift (Except Failure) Logged where
  monadLift := ofExcept

@[simp] theorem outcome_pure {α : Type} (value : α) :
    (pure value : Logged α).outcome = .ok value := rfl

@[simp] theorem notices_pure {α : Type} (value : α) : (pure value : Logged α).notices = [] := rfl

@[simp] theorem outcome_bind {α β : Type} (first : Logged α) (second : α → Logged β) :
    (first >>= second).outcome = first.outcome.bind fun value => (second value).outcome := by
  show (andThen first second).outcome = _
  unfold andThen
  cases first.outcome <;> rfl

theorem notices_bind {α β : Type} (first : Logged α) (second : α → Logged β) :
    (first >>= second).notices = first.notices ++
      match first.outcome with
      | .ok value => (second value).notices
      | .error _ => [] := by
  show (andThen first second).notices = _
  unfold andThen
  cases first.outcome <;> simp

@[simp] theorem outcome_note (notice : Notice) : (note notice).outcome = .ok () := rfl

@[simp] theorem outcome_noteAll (notices : List Notice) : (noteAll notices).outcome = .ok () := rfl

@[simp] theorem outcome_ofExcept {α : Type} (outcome : Except Failure α) :
    (ofExcept outcome).outcome = outcome := rfl

@[simp] theorem notices_ofExcept {α : Type} (outcome : Except Failure α) :
    (ofExcept outcome).notices = [] := rfl

@[simp] theorem outcome_liftM {α : Type} (outcome : Except Failure α) :
    (liftM outcome : Logged α).outcome = outcome := rfl

theorem eq_of {α : Type} {a b : Logged α} (notices : a.notices = b.notices)
    (outcome : a.outcome = b.outcome) : a = b := by
  cases a; cases b; simp_all

theorem bind_pure_self {α : Type} (step : Logged α) : (step >>= pure) = step := by
  obtain ⟨notices, outcome⟩ := step
  cases outcome <;> exact eq_of (by simp [notices_bind]) (by simp [Except.bind])

theorem bind_assoc {α β γ : Type} (first : Logged α) (second : α → Logged β)
    (third : β → Logged γ) :
    (first >>= second >>= third) = (first >>= fun value => second value >>= third) := by
  obtain ⟨notices, outcome⟩ := first
  cases outcome with
  | error failure => exact eq_of (by simp [notices_bind, Except.bind]) (by simp [Except.bind])
  | ok value => exact eq_of (by simp [notices_bind, Except.bind]) (by simp [Except.bind])

instance : LawfulMonad Logged :=
  LawfulMonad.mk' Logged bind_pure_self (fun _ _ => rfl) bind_assoc

@[simp] theorem outcome_map {α β : Type} (f : α → β) (step : Logged α) :
    (f <$> step).outcome = step.outcome.map f := by
  rw [map_eq_pure_bind, outcome_bind]
  cases step.outcome <;> rfl

end Logged
end DebugLabels

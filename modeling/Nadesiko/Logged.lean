import Nadesiko.Event
import Nadesiko.Overflow

/-!
# Computations that record events

A logged computation has the events it recorded, in order, and its outcome. An overflow ends the
computation, and the events recorded up to then remain.
-/

namespace Nadesiko

/-- A value, or the overflow that prevented it, with the events on the way. -/
structure Logged (α : Type) where
  /-- The recorded events, in order. -/
  events : List Event
  /-- How the computation ended. -/
  outcome : Except Overflow α

namespace Logged

variable {α β γ : Type}

/-- Continues with the value of a computation. -/
def andThen (x : Logged α) (f : α → Logged β) : Logged β :=
  match x.outcome with
  | .ok a => ⟨x.events ++ (f a).events, (f a).outcome⟩
  | .error overflow => ⟨x.events, .error overflow⟩

instance : Monad Logged where
  pure a := ⟨[], .ok a⟩
  bind := andThen

/-- Records events. -/
def record (events : List Event) : Logged Unit := ⟨events, .ok ()⟩

/-- Ends with an overflow. -/
def overflow (cause : Overflow) : Logged α := ⟨[], .error cause⟩

/-- A computation that records nothing. -/
def ofExcept (outcome : Except Overflow α) : Logged α := ⟨[], outcome⟩

@[simp] theorem pure_eq (a : α) : (pure a : Logged α) = ⟨[], .ok a⟩ := rfl

theorem bind_eq (x : Logged α) (f : α → Logged β) : x >>= f = x.andThen f := rfl

@[simp] theorem mk_ok_bind (events : List Event) (a : α) (f : α → Logged β) :
    (⟨events, .ok a⟩ : Logged α) >>= f = ⟨events ++ (f a).events, (f a).outcome⟩ := rfl

@[simp] theorem mk_error_bind (events : List Event) (cause : Overflow) (f : α → Logged β) :
    (⟨events, .error cause⟩ : Logged α) >>= f = ⟨events, .error cause⟩ := rfl

/-- After a computation with a value, the rest decides the outcome. -/
theorem outcome_bind_of_ok {x : Logged α} {a : α} (h : x.outcome = .ok a) (f : α → Logged β) :
    (x >>= f).outcome = (f a).outcome := by
  simp [bind_eq, andThen, h]

/-- After a computation with a value, the events of the rest are added. -/
theorem events_bind_of_ok {x : Logged α} {a : α} (h : x.outcome = .ok a) (f : α → Logged β) :
    (x >>= f).events = x.events ++ (f a).events := by
  simp [bind_eq, andThen, h]

theorem andThen_pure (x : Logged α) : x.andThen pure = x := by
  obtain ⟨events, outcome⟩ := x
  cases outcome <;> simp [andThen]

theorem andThen_assoc (x : Logged α) (f : α → Logged β) (g : β → Logged γ) :
    (x.andThen f).andThen g = x.andThen (fun a => (f a).andThen g) := by
  obtain ⟨events, outcome⟩ := x
  cases outcome with
  | error cause => rfl
  | ok a =>
    cases h : f a with
    | mk later result =>
      cases result <;> simp [andThen, h, List.append_assoc]

instance : LawfulMonad Logged :=
  LawfulMonad.mk' Logged
    (fun x => andThen_pure x)
    (fun _ _ => rfl)
    (fun x f g => andThen_assoc x f g)

end Logged

end Nadesiko

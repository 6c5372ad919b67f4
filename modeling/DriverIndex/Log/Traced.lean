import DriverIndex.Log.Event

/-!
# Logged computations

A computation that logs events and may fail. The events of a computation that fails are those it logged before.
-/

namespace DriverIndex.Log

structure Traced (ε α : Type) where
  events : List Event
  outcome : Except ε α

namespace Traced

variable {ε α β : Type}

def ofExcept (outcome : Except ε α) : Traced ε α := ⟨[], outcome⟩

def log (event : Event) : Traced ε Unit := ⟨[event], .ok ()⟩

def fail (failure : ε) : Traced ε α := ⟨[], .error failure⟩

/-- Goes on with the value of a computation, unless it failed. -/
def andThen (first : Traced ε α) (next : α → Traced ε β) : Traced ε β :=
  match first.outcome with
  | .ok value => ⟨first.events ++ (next value).events, (next value).outcome⟩
  | .error failure => ⟨first.events, .error failure⟩

instance : Monad (Traced ε) where
  pure value := ⟨[], .ok value⟩
  bind := andThen

@[simp] theorem events_pure (value : α) : (pure value : Traced ε α).events = [] := rfl

@[simp] theorem outcome_pure (value : α) : (pure value : Traced ε α).outcome = .ok value := rfl

@[simp] theorem events_log (event : Event) : (log event : Traced ε Unit).events = [event] := rfl

@[simp] theorem outcome_log (event : Event) : (log event : Traced ε Unit).outcome = .ok () := rfl

@[simp] theorem events_fail (failure : ε) : (fail failure : Traced ε α).events = [] := rfl

@[simp] theorem outcome_fail (failure : ε) : (fail failure : Traced ε α).outcome = .error failure := rfl

@[simp] theorem events_ofExcept (outcome : Except ε α) : (ofExcept outcome).events = [] := rfl

@[simp] theorem outcome_ofExcept (outcome : Except ε α) : (ofExcept outcome).outcome = outcome := rfl

theorem bind_of_ok {first : Traced ε α} {value : α} (h : first.outcome = .ok value) (next : α → Traced ε β) :
    first >>= next = ⟨first.events ++ (next value).events, (next value).outcome⟩ := by
  simp [bind, andThen, h]

theorem bind_of_error {first : Traced ε α} {failure : ε} (h : first.outcome = .error failure)
    (next : α → Traced ε β) : first >>= next = ⟨first.events, .error failure⟩ := by
  simp [bind, andThen, h]

end Traced

end DriverIndex.Log

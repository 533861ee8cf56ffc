import Chip8.Console
import Chip8.Failure

/-!
# Outcomes

A host call leaves messages, in order, and a value or a failure.  Messages sent before a failure
are kept.
-/

namespace Chip8

/-- The messages of a call, and its value or the failure that ended it. -/
structure Outcome (α : Type) where
  messages : List Message
  result : Except Failure α

namespace Outcome

variable {α β : Type}

def fail (f : Failure) : Outcome α := ⟨[], .error f⟩

/-- A call that sends a message. -/
def say (severity : Severity) (text : String) : Outcome Unit := ⟨[⟨severity, text⟩], .ok ()⟩

/-- A call that only may fail. -/
def lift (r : Except Failure α) : Outcome α := ⟨[], r⟩

/-- One call after the other, unless the first fails. -/
def andThen (o : Outcome α) (f : α → Outcome β) : Outcome β :=
  match o.result with
  | .ok a => ⟨o.messages ++ (f a).messages, (f a).result⟩
  | .error e => ⟨o.messages, .error e⟩

instance : Monad Outcome where
  pure a := ⟨[], .ok a⟩
  bind := andThen

@[simp] theorem result_pure (a : α) : (pure a : Outcome α).result = .ok a := rfl

@[simp] theorem messages_pure (a : α) : (pure a : Outcome α).messages = [] := rfl

theorem result_bind (o : Outcome α) (f : α → Outcome β) :
    (o >>= f).result = o.result.bind fun a => (f a).result := by
  change (andThen o f).result = _
  unfold andThen
  cases o.result <;> rfl

/-- The failure of a call that failed. -/
def failure? (o : Outcome α) : Option Failure :=
  match o.result with
  | .ok _ => none
  | .error f => some f

theorem failure?_of_ok {o : Outcome α} {a : α} (h : o.result = .ok a) : o.failure? = none := by
  rw [failure?, h]

theorem failure?_of_error {o : Outcome α} {f : Failure} (h : o.result = .error f) :
    o.failure? = some f := by
  rw [failure?, h]

/-- The state after a call on a state: its value, or on a fault the halted state, or on any
other failure the state from before. -/
def settle (before : State) (o : Outcome State) : State :=
  match o.result with
  | .ok s => s
  | .error (.halted _ s) => s
  | .error _ => before

end Outcome

end Chip8

import Mathlib

/-! The error type of the actor crate and the conversions of its `ResultExt`. -/

namespace Rush.Actor

inductive Error where
  | actorNotFound (text : String)
  | message (text : String)
  | startActor (text : String)
  | createActor (text : String)
  | event (text : String)
  | supervision (text : String)
  | serialization (text : String)
  | deserialization (text : String)
  | store (text : String)
  | retryLimitExceeded
  | unhandledMessage (text : String)
  | invalidResponse
  deriving DecidableEq, Repr

def Error.display : Error → String
  | .actorNotFound text => s!"Actor not found: {text}"
  | .message text => s!"Failed to send message to actor: {text}"
  | .startActor text => s!"Failed to start actor: {text}"
  | .createActor text => s!"Failed to create actor: {text}"
  | .event text => s!"Sending event failed: {text}"
  | .supervision text => s!"Supervision error: {text}"
  | .serialization text => s!"Serialization error: {text}"
  | .deserialization text => s!"Deserialization error: {text}"
  | .store text => s!"Store error: {text}"
  | .retryLimitExceeded => "Retry limit exceeded"
  | .unhandledMessage text => s!"Unhandled message: {text}"
  | .invalidResponse => "Invalid response"

instance : ToString Error := ⟨Error.display⟩

section ResultExt

variable {α ε : Type} [ToString ε]

/-- Every conversion of `ResultExt` puts a context before the error's text and
keeps the success value. -/
def withContext (variant : String → Error) (result : Except ε α) (context : String) :
    Except Error α :=
  result.mapError fun err => variant s!"{context}: {err}"

def actorStore (result : Except ε α) (context : String) : Except Error α :=
  withContext .store result context

def actorSerialization (result : Except ε α) (context : String) : Except Error α :=
  withContext .serialization result context

def actorDeserialization (result : Except ε α) (context : String) : Except Error α :=
  withContext .deserialization result context

def actorMessage (result : Except ε α) (context : String) : Except Error α :=
  withContext .message result context

def actorEvent (result : Except ε α) (context : String) : Except Error α :=
  withContext .event result context

@[simp] theorem withContext_ok (variant : String → Error) (value : α) (context : String) :
    withContext variant (.ok value : Except ε α) context = .ok value := rfl

@[simp] theorem withContext_error (variant : String → Error) (err : ε) (context : String) :
    withContext variant (.error err : Except ε α) context = .error (variant s!"{context}: {err}") :=
  rfl

theorem withContext_eq_ok (variant : String → Error) (result : Except ε α) (context : String)
    (value : α) : withContext variant result context = .ok value ↔ result = .ok value := by
  cases result <;> simp

end ResultExt

end Rush.Actor

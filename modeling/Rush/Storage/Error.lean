import Rush.Actor.Error

/-! The error type of the store crate. Texts of the database and of the file
system are carried as the strings their `Display` gives. -/

namespace Rush.Storage

abbrev ActorError := Rush.Actor.Error

inductive Error where
  | createStore (text : String)
  | store (text : String)
  | reading (text : String)
  | writing (text : String)
  | deleting (text : String)
  | entryNotFound (text : String)
  | serialization (text : String)
  | fjall (text : String)
  | io (text : String)
  deriving DecidableEq, Repr

def Error.display : Error → String
  | .createStore text => s!"Create store: {text}"
  | .store text => s!"Store error: {text}"
  | .reading text => s!"Reading store error: {text}"
  | .writing text => s!"Writing store error: {text}"
  | .deleting text => s!"Deleting store error: {text}"
  | .entryNotFound text => s!"Entry not found: {text}"
  | .serialization text => s!"Serialization error: {text}"
  | .fjall text => s!"Fjall error: {text}"
  | .io text => s!"IO error: {text}"

instance : ToString Error := ⟨Error.display⟩

end Rush.Storage

/-
References: where a definition stands in for a thing, so does the name of one that is registered.
-/
import Switchboard.Json.Decode

namespace Switchboard

/-- The name of a registered thing, or the definition of one of its own. -/
inductive Reference (α : Type)
  | named (name : String)
  | inline (definition : α)
deriving Repr

namespace Reference

/-- Reads a reference: a string is a name, all else is a definition. `type` is what the kind of
reference is called in faults. -/
def decode {α : Type} (type : String) (inline : Decoder α) : Decoder (Reference α)
  | .string name => .ok (.named name)
  | v =>
    match inline v with
    | .ok definition => .ok (.inline definition)
    | .error _ => .error (.noVariant type)

def encode {α : Type} (inline : α → Json) : Reference α → Json
  | named name => .string name
  | .inline definition => inline definition

/-- Whether this is the name `name`. -/
def isNamed {α : Type} (name : String) : Reference α → Bool
  | named n => n == name
  | inline _ => false

end Reference

end Switchboard

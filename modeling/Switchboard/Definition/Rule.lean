/-
Definitions of rules and of lists of rules.
-/
import Switchboard.Definition.Reference
import Switchboard.Predicate

namespace Switchboard

/-- The definition of a rule. The action is not looked into. -/
structure RuleDefinition where
  name : Option String
  condition : Match
  action : Json

namespace RuleDefinition

open Decode

def type : RecordType where
  title := "struct RuleDef"
  fields := ["name", "match", "action"]

/-- Reads a rule; without a condition it always matches. -/
def decode : Decoder RuleDefinition := fun v => do
  let r ← record type v
  let name := r.field type "name" (optional string) (some none)
  let condition := r.field type "match" (fun v => .ok (Match.ofJson v)) (some .wildcard)
  let action := r.field type "action" .ok (some .null)
  r.settle type [("name", fault? name), ("match", fault? condition), ("action", fault? action)]
  return ⟨← name, ← condition, ← action⟩

def encode (d : RuleDefinition) : Json :=
  .ofFields <|
    (d.name.toList.map fun n => ("name", Json.string n)) ++
    [("match", d.condition.toJson), ("action", d.action)]

end RuleDefinition

/-- A rule by name or by definition. -/
abbrev RuleReference := Reference RuleDefinition

namespace RuleReference

def decode : Decoder RuleReference := Reference.decode "RuleRefDef" RuleDefinition.decode

def encode : RuleReference → Json := Reference.encode RuleDefinition.encode

end RuleReference

/-- The definition of a list of rules. -/
structure RuleListDefinition where
  name : Option String
  rules : List RuleReference

namespace RuleListDefinition

open Decode

def type : RecordType where
  title := "struct RuleListDef"
  fields := ["name", "rules"]

def decode : Decoder RuleListDefinition := fun v => do
  let r ← record type v
  let name := r.field type "name" (optional string) (some none)
  let rules := r.field type "rules" (list RuleReference.decode) (some [])
  r.settle type [("name", fault? name), ("rules", fault? rules)]
  return ⟨← name, ← rules⟩

def encode (d : RuleListDefinition) : Json :=
  .ofFields <|
    (d.name.toList.map fun n => ("name", Json.string n)) ++
    [("rules", .array (d.rules.map RuleReference.encode))]

end RuleListDefinition

/-- A list of rules by name or by definition, as a listener refers to it. -/
abbrev RuleListBinding := Reference RuleListDefinition

namespace RuleListBinding

def decode : Decoder RuleListBinding := Reference.decode "RuleListBinding" RuleListDefinition.decode

def encode : RuleListBinding → Json := Reference.encode RuleListDefinition.encode

end RuleListBinding

end Switchboard

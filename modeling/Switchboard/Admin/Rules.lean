/-
Administration of rules.
-/
import Switchboard.Admin.Edit

namespace Switchboard

namespace Admin

def listRules (r : Registry) : List Json :=
  (Table.values r.current.rules).map (Rule.view r.counters)

def getRule (r : Registry) (name : String) : Except Fault Json :=
  match r.current.rule? name with
  | some rule => .ok (rule.view r.counters)
  | none => .error (.notFound .rule name)

/-- Adds a rule. -/
def addRule (strict : Bool) (v : Json) : Edit Json := fun s res =>
  let checked : Except Fault RuleDefinition := do
    let d ← decodeAs .rule RuleDefinition.decode v
    checkMatch strict .rule d.condition
    return d
  match checked with
  | .error f => (.error f, res)
  | .ok d =>
    match chooseName .rule .rule s.rules d.name res with
    | (.error f, res) => (.error f, res)
    | (.ok name, res) =>
      let (rule, res) := Rule.build res name d.condition d.action
      (.ok (rule.view res.counters, s.putRule rule), res)

/-- Stores a new version of a rule. -/
def storeRule (strict : Bool) (name : String) (d : RuleDefinition) : Edit Json := fun s res =>
  let checked : Except Fault Rule := do
    checkName .rule name d.name
    checkMatch strict .rule d.condition
    match s.rule? name with
    | some rule => return rule
    | none => throw (.notFound .rule name)
  match checked with
  | .error f => (.error f, res)
  | .ok current =>
    let (rule, res) := Rule.updated res current d
    (.ok (rule.view res.counters, s.putRule rule), res)

/-- Replaces what a rule asks for and does. Its count goes on. -/
def updateRule (strict : Bool) (name : String) (v : Json) : Edit Json := fun s res =>
  match decodeAs .rule RuleDefinition.decode v with
  | .error f => (.error f, res)
  | .ok d => storeRule strict name d s res

/-- Deletes a rule that no list names. -/
def deleteRule (name : String) : Edit Json := fun s res =>
  match (Table.values s.ruleLists).find? (·.references name) with
  | some list => (.error (.inUse .rule name (.ruleList list.name)), res)
  | none =>
    match s.rule? name with
    | none => (.error (.notFound .rule name), res)
    | some rule =>
      (.ok (rule.view res.counters, s.dropRule name), res)

end Admin

end Switchboard

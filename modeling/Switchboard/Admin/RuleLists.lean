/-
Administration of lists of rules and of their entries.
-/
import Switchboard.Admin.Edit

namespace Switchboard

namespace Admin

def viewRuleList (s : Snapshot) (counters : Counters) (recursive : Bool) (list : RuleList) : Json :=
  list.view s.rule? counters recursive

def listRuleLists (r : Registry) (recursive : Bool) : List Json :=
  (Table.values r.current.ruleLists).map (viewRuleList r.current r.counters recursive)

/-- The list of a name. -/
def ruleListOf (s : Snapshot) (name : String) : Except Fault RuleList :=
  match s.ruleList? name with
  | some list => .ok list
  | none => .error (.notFound .ruleList name)

def getRuleList (r : Registry) (name : String) (recursive : Bool) : Except Fault Json :=
  (ruleListOf r.current name).map (viewRuleList r.current r.counters recursive)

/-- Builds a list from a definition, checks it and stores it. -/
def buildRuleList (strict : Bool) (name : String) (d : RuleListDefinition) : Edit Json :=
  fun s res =>
    let (list, res) := RuleList.build res name d
    match checkRuleList strict s list with
    | .error f => (.error f, res)
    | .ok _ => (.ok (viewRuleList s res.counters false list, s.putRuleList list), res)

/-- Adds a list. -/
def addRuleList (strict : Bool) (v : Json) : Edit Json := fun s res =>
  match decodeAs .ruleList RuleListDefinition.decode v with
  | .error f => (.error f, res)
  | .ok d =>
    match chooseName .ruleList .ruleList s.ruleLists d.name res with
    | (.error f, res) => (.error f, res)
    | (.ok name, res) => buildRuleList strict name d s res

/-- Stores a list in the place of another one. -/
def storeRuleList (strict : Bool) (name : String) (d : RuleListDefinition) : Edit Json :=
  fun s res =>
    let checked : Except Fault RuleList := do
      checkName .ruleList name d.name
      ruleListOf s name
    match checked with
    | .error f => (.error f, res)
    | .ok _ => buildRuleList strict name d s res

/-- Replaces all entries of a list. -/
def updateRuleList (strict : Bool) (name : String) (v : Json) : Edit Json := fun s res =>
  match decodeAs .ruleList RuleListDefinition.decode v with
  | .error f => (.error f, res)
  | .ok d => storeRuleList strict name d s res

def deleteRuleList (name : String) : Edit Json := fun s res =>
  match ruleListOf s name with
  | .error f => (.error f, res)
  | .ok list =>
    (.ok (viewRuleList s res.counters false list, s.dropRuleList name), res)

/-! ### Entries -/

/-- The entry at a position. -/
def entryAt (list : RuleList) (position : Nat) : Except Fault RuleEntry :=
  match list.entries[position]? with
  | some entry => .ok entry
  | none => .error (.positionOutOfRange list.name position list.entries.length)

def getEntry (r : Registry) (name : String) (position : Nat) (recursive : Bool) :
    Except Fault Json := do
  let list ← ruleListOf r.current name
  let entry ← entryAt list position
  return entry.view r.current.rule? r.counters recursive

/-- Inserts an entry in front of a position, which may be the end of the list. -/
def insertEntry (strict : Bool) (name : String) (position : Nat) (v : Json) : Edit Json :=
  fun s res =>
    let found : Except Fault (RuleReference × RuleList) := do
      let reference ← decodeAs .ruleList RuleReference.decode v
      return (reference, ← ruleListOf s name)
    match found with
    | .error f => (.error f, res)
    | .ok (reference, list) =>
      let (entry, res) := RuleEntry.build res reference
      match list.inserted? position entry with
      | none => (.error (.positionOutOfRange name position list.entries.length), res)
      | some next =>
        match checkRuleList strict s next with
        | .error f => (.error f, res)
        | .ok _ => (.ok (viewRuleList s res.counters false next, s.putRuleList next), res)

/-- Takes an entry out of a list. -/
def deleteEntry (name : String) (position : Nat) : Edit Json := fun s res =>
  let found : Except Fault (RuleList × RuleEntry) := do
    let list ← ruleListOf s name
    return (list, ← entryAt list position)
  match found with
  | .error f => (.error f, res)
  | .ok (list, entry) =>
    match list.removed? position with
    | none => (.error (.positionOutOfRange name position list.entries.length), res)
    | some next => (.ok (entry.view s.rule? res.counters false, s.putRuleList next), res)

end Admin

end Switchboard

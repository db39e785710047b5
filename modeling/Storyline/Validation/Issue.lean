import Storyline.Json.Record
import Storyline.Content.Condition

/-! Problems found in narrative content. -/
namespace Storyline

inductive IssueKind where
  | orphan
  | unreachable
  | brokenChain
  | invalidCondition
  | circularDependency
  | missingPrerequisites
  | invalidStructure
  deriving DecidableEq

namespace IssueKind

def all : List IssueKind :=
  [orphan, unreachable, brokenChain, invalidCondition, circularDependency, missingPrerequisites,
    invalidStructure]

def name : IssueKind → String
  | orphan => "orphan"
  | unreachable => "unreachable"
  | brokenChain => "broken_chain"
  | invalidCondition => "invalid_condition"
  | circularDependency => "circular_dependency"
  | missingPrerequisites => "missing_prerequisites"
  | invalidStructure => "invalid_structure"

def ofName? (name : String) : Option IssueKind := all.find? (·.name = name)

end IssueKind

inductive Severity where
  | error
  | warning
  deriving DecidableEq

namespace Severity

def name : Severity → String
  | error => "error"
  | warning => "warning"

def ofName? : String → Option Severity
  | "error" => some error
  | "warning" => some warning
  | _ => none

end Severity

structure Issue where
  kind : IssueKind
  node : Option RecordId := none
  edge : Option String := none
  message : String
  severity : Severity
  suggestions : List String := []

namespace Issue

def isError (i : Issue) : Bool := i.severity = .error

def display (i : Issue) : String :=
  let place := match i.node with
    | some id => " " ++ id ++ ": "
    | none => " "
  i.severity.name ++ ": [" ++ i.kind.name ++ "]" ++ place ++ i.message

def toJson (i : Issue) : Json :=
  .object (
    [("type", .string i.kind.name)]
      ++ (i.node.map fun id => ("nodeId", Json.string id)).toList
      ++ (i.edge.map fun id => ("edgeId", Json.string id)).toList
      ++ [("message", .string i.message), ("severity", .string i.severity.name),
        ("suggestions", .array (i.suggestions.map .string))])

def ofJson? (j : Json) : Option Issue := do
  let row ← j.row? ["type", "nodeId", "edgeId", "message", "severity", "suggestions"]
  return {
    kind := ← row.required "type" (Json.tag? IssueKind.ofName?)
    node := ← row.maybe "nodeId" Json.text?
    edge := ← row.maybe "edgeId" Json.text?
    message := ← row.required "message" Json.text?
    severity := ← row.required "severity" (Json.tag? Severity.ofName?)
    suggestions := ← row.withDefault "suggestions" [] (Json.listOf? Json.text?) }

end Issue

end Storyline

import Storyline.Graph.Basic
import Storyline.Validation.Report

/-! Checks that look at one record alone: the structure of a quest, and its conditions. -/
namespace Storyline.Validation

def structureError (q : Quest) (message : String) (suggestions : List String) : Issue :=
  { kind := .invalidStructure, node := some q.id, message, severity := .error, suggestions }

def isPercentage (x : Float) : Bool := 0.0 ≤ x && x ≤ 100.0

def titleIssues (q : Quest) : List Issue :=
  if Text.isBlankText q.title then
    [structureError q "quest title is empty" ["give the quest a title"]]
  else []

def descriptionIssues (q : Quest) : List Issue :=
  if Text.isBlankText q.description then
    [structureError q "quest description is empty" ["describe what the player has to do"]]
  else []

def outcomeIssues (q : Quest) (o : Outcome) (n : Nat) : List Issue :=
  (if Text.isBlankText o.description then
    [structureError q ("outcome " ++ toString n ++ " has no description") []]
  else [])
  ++ if isPercentage o.probability then []
    else
      [structureError q
        ("outcome " ++ toString n ++ " probability " ++ Decimal.plain o.probability
          ++ " is outside 0..=100")
        ["use a percentage between 0 and 100"]]

def probabilitySum (outcomes : List Outcome) : Float :=
  outcomes.foldl (fun sum o => sum + o.probability) (-0.0)

def sumDeviates (policy : ValidationPolicy) (sum : Float) : Bool :=
  policy.tolerance < (sum - 100.0).abs

def sumIssues (policy : ValidationPolicy) (q : Quest) : List Issue :=
  let sum := probabilitySum q.outcomes
  if sumDeviates policy sum then
    [{ kind := .invalidStructure
       node := some q.id
       message := "outcome probabilities sum to " ++ Decimal.plain sum ++ ", expected 100"
       severity := .warning
       suggestions := ["adjust the outcome probabilities so they add up to 100"] }]
  else []

def structureIssues (policy : ValidationPolicy) (q : Quest) : List Issue :=
  titleIssues q ++ descriptionIssues q
    ++ if q.outcomes.isEmpty then
        [structureError q "quest has no outcomes" ["add at least a success and a failure outcome"]]
      else
        (q.outcomes.zipIdx 1).flatMap (fun (o, n) => outcomeIssues q o n) ++ sumIssues policy q

def conditionIssue? (owner : RecordId) (place : String) (c : AuthoredCondition) : Option Issue :=
  match Condition.ofAuthored c with
  | .ok _ => none
  | .error fault =>
    some {
      kind := .invalidCondition
      node := some owner
      message := place ++ ": " ++ fault.message
      severity := .error
      suggestions :=
        ["use a type of stat, inventory, flag, quest or reputation with a matching operator"] }

def conditionListIssues (owner : RecordId) (place : String) (cs : List AuthoredCondition) :
    List Issue :=
  (cs.zipIdx 1).filterMap fun (c, n) => conditionIssue? owner (place ++ toString n) c

def questConditionIssues (q : Quest) : List Issue :=
  conditionListIssues q.id "prerequisite " q.prerequisites
    ++ (q.outcomes.zipIdx 1).flatMap fun (o, n) =>
      conditionListIssues q.id ("outcome " ++ toString n ++ " condition ") o.conditions

def dialogueConditionIssues (d : Dialogue) : List Issue :=
  conditionListIssues d.id "condition " d.conditions

def entryConditionIssues : Entry → List Issue
  | .quest q => questConditionIssues q
  | .dialogue d => dialogueConditionIssues d
  | .storyArc _ => []

end Storyline.Validation

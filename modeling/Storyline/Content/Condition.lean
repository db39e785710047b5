import Storyline.Decimal.Reading
import Storyline.Decimal.Text
import Storyline.Json.Record
import Storyline.Text.Blank
import Storyline.Text.LowerCase

/-!
Conditions on the player. Authors store them in a loose form in which every part may be absent;
a condition proper has a subject, an operator that goes with it, a target and a value.
-/
namespace Storyline

abbrev RecordId := String

namespace Condition

inductive Value where
  | bool (value : Bool)
  | number (value : Float)
  | text (value : String)

namespace Value

def asNumber? : Value → Option Float
  | number x => some x
  | bool b => some (if b then 1.0 else 0.0)
  | text s => Decimal.read? (Text.trim s)

def asBool? : Value → Option Bool
  | bool b => some b
  | number x => some (x != 0.0)
  | text s =>
    let word := Text.lower (Text.trim s)
    if word = "true" then some true else if word = "false" then some false else none

def display : Value → String
  | bool b => toString b
  | number x => Decimal.plain x
  | text s => s

def toJson : Value → Json
  | bool b => .bool b
  | number x => Json.ofNumber x
  | text s => .string s

def ofJson? : Json → Option Value
  | .bool b => some (bool b)
  | .string s => some (text s)
  | j => j.number?.map number

end Value

inductive Subject where
  | stat
  | inventory
  | flag
  | quest
  | reputation
  deriving DecidableEq

namespace Subject

def all : List Subject := [stat, inventory, flag, quest, reputation]

def name : Subject → String
  | stat => "stat"
  | inventory => "inventory"
  | flag => "flag"
  | quest => "quest"
  | reputation => "reputation"

def ofTag? (tag : String) : Option Subject :=
  match Text.lower (Text.trim tag) with
  | "stat" => some stat
  | "inventory" | "item" => some inventory
  | "flag" => some flag
  | "quest" => some quest
  | "reputation" => some reputation
  | _ => none

def supportsMembership : Subject → Bool
  | inventory | flag | quest => true
  | stat | reputation => false

end Subject

inductive Operator where
  | eq
  | gt
  | lt
  | gte
  | lte
  | ne
  | has
  | notHas
  deriving DecidableEq

namespace Operator

def all : List Operator := [eq, gt, lt, gte, lte, ne, has, notHas]

def name : Operator → String
  | eq => "eq"
  | gt => "gt"
  | lt => "lt"
  | gte => "gte"
  | lte => "lte"
  | ne => "ne"
  | has => "has"
  | notHas => "not_has"

def ofName? (name : String) : Option Operator := all.find? (·.name = name)

def ofTag? (tag : String) : Option Operator :=
  match Text.lower (Text.trim tag) with
  | "eq" | "==" | "=" => some eq
  | "gt" | ">" => some gt
  | "lt" | "<" => some lt
  | "gte" | ">=" => some gte
  | "lte" | "<=" => some lte
  | "ne" | "!=" => some ne
  | "has" => some has
  | "not_has" | "nothas" | "not-has" => some notHas
  | _ => none

def isMembership : Operator → Bool
  | has | notHas => true
  | _ => false

/-- Numbers nearer to each other than this are equal. -/
def epsilon : Float := Float.ofScientific 2220446049250313 true 31

def compare (op : Operator) (a b : Float) : Bool :=
  match op with
  | eq => (a - b).abs < epsilon
  | ne => (a - b).abs ≥ epsilon
  | gt => a > b
  | lt => a < b
  | gte => a ≥ b
  | lte => a ≤ b
  | has | notHas => false

def compareBool (op : Operator) (actual expected : Bool) : Bool :=
  match op with
  | has | eq => actual == expected
  | notHas | ne => actual != expected
  | _ => false

end Operator

inductive Fault where
  | missingType
  | missingOperator
  | missingValue
  | unknownType (tag : String)
  | unknownOperator (tag : String)
  | incompatible (op : Operator) (subject : Subject)

def Fault.message : Fault → String
  | missingType => "condition is missing a type"
  | missingOperator => "condition is missing an operator"
  | missingValue => "condition is missing a value"
  | unknownType tag => "unknown condition type \"" ++ tag ++ "\""
  | unknownOperator tag => "unknown operator \"" ++ tag ++ "\""
  | incompatible op subject =>
    "operator " ++ op.name ++ " cannot be used with " ++ subject.name ++ " conditions"

end Condition

structure AuthoredCondition where
  subject : Option String := none
  operator : Option String := none
  target : Option String := none
  quest : Option RecordId := none
  value : Option Condition.Value := none
  note : Option String := none

namespace AuthoredCondition

def questCompleted (quest : RecordId) : AuthoredCondition :=
  { subject := some "quest", operator := some "has", quest := some quest,
    value := some (.text "completed") }

def of (subject operator target : String) (value : Condition.Value) : AuthoredCondition :=
  { subject := some subject, operator := some operator, target := some target,
    value := some value }

/-- The quest that the condition points at: the one it names, else the target of a condition whose
type is the bare word quest in any letter case. -/
def referencedQuest? (c : AuthoredCondition) : Option RecordId :=
  match c.quest with
  | some id => some id
  | none =>
    match c.subject with
    | some tag => if Text.sameIgnoringAsciiCase tag "quest" then c.target else none
    | none => none

def toJson (c : AuthoredCondition) : Json :=
  .object [
    ("type", Json.ofOptional .string c.subject),
    ("operator", Json.ofOptional .string c.operator),
    ("target", Json.ofOptional .string c.target),
    ("quest_id", Json.ofOptional .string c.quest),
    ("value", Json.ofOptional Condition.Value.toJson c.value),
    ("description", Json.ofOptional .string c.note)]

def ofJson? (j : Json) : Option AuthoredCondition := do
  let row ← j.row? ["type", "operator", "target", "quest_id", "value", "description"]
  return {
    subject := ← row.maybe "type" Json.text?
    operator := ← row.maybe "operator" Json.text?
    target := ← row.maybe "target" Json.text?
    quest := ← row.maybe "quest_id" Json.text?
    value := ← row.maybe "value" Condition.Value.ofJson?
    note := ← row.maybe "description" Json.text? }

end AuthoredCondition

structure Condition where
  subject : Condition.Subject
  operator : Condition.Operator
  target : String
  value : Condition.Value

namespace Condition

/-- The condition that an authored one stands for. Faults are looked for in the order type,
operator, their agreement, value. -/
def ofAuthored (c : AuthoredCondition) : Except Fault Condition := do
  let some subjectTag := c.subject | throw .missingType
  let some subject := Subject.ofTag? subjectTag | throw (.unknownType subjectTag)
  let some operatorTag := c.operator | throw .missingOperator
  let some operator := Operator.ofTag? operatorTag | throw (.unknownOperator operatorTag)
  if operator.isMembership && !subject.supportsMembership then
    throw (.incompatible operator subject)
  let some value := c.value | throw .missingValue
  return { subject, operator, target := (c.target <|> c.quest).getD "", value }

def display (c : Condition) : String :=
  c.subject.name ++ " " ++ c.target ++ " " ++ c.operator.name ++ " " ++ c.value.display

def toJson (c : Condition) : Json :=
  .object [
    ("kind", .string c.subject.name),
    ("operator", .string c.operator.name),
    ("target", .string c.target),
    ("value", c.value.toJson)]

end Condition

end Storyline

import Storyline.Json.Record

/-! What happens in a run, and the log of it. -/
namespace Storyline

inductive EventKind where
  | questStart
  | questComplete
  | dialogue
  | statChange
  | reputationChange
  | alignmentChange
  | itemGain
  | itemLoss
  | flagSet
  | locationChange
  deriving DecidableEq

namespace EventKind

def all : List EventKind :=
  [questStart, questComplete, dialogue, statChange, reputationChange, alignmentChange, itemGain,
    itemLoss, flagSet, locationChange]

def name : EventKind → String
  | questStart => "quest_start"
  | questComplete => "quest_complete"
  | dialogue => "dialogue"
  | statChange => "stat_change"
  | reputationChange => "reputation_change"
  | alignmentChange => "alignment_change"
  | itemGain => "item_gain"
  | itemLoss => "item_loss"
  | flagSet => "flag_set"
  | locationChange => "location_change"

def ofName? (name : String) : Option EventKind := all.find? (·.name = name)

end EventKind

inductive EventTone where
  | info
  | warning
  | error
  | success
  deriving DecidableEq

namespace EventTone

def name : EventTone → String
  | info => "info"
  | warning => "warning"
  | error => "error"
  | success => "success"

def ofName? : String → Option EventTone
  | "info" => some info
  | "warning" => some warning
  | "error" => some error
  | "success" => some success
  | _ => none

end EventTone

structure Event where
  id : Nat := 0
  timestamp : Nat
  kind : EventKind
  description : String
  data : Json := .null
  tone : EventTone := .info

namespace Event

def toJson (e : Event) : Json :=
  .object [
    ("id", .integer e.id),
    ("timestampSeconds", .integer e.timestamp),
    ("type", .string e.kind.name),
    ("description", .string e.description),
    ("data", e.data),
    ("severity", .string e.tone.name)]

/-- Any JSON value that can be read is data. -/
def data? (j : Json) : Option Json := if j.isReadable then some j else none

def ofJson? (j : Json) : Option Event := do
  let row ← j.row? ["id", "timestampSeconds", "type", "description", "data", "severity"]
  return {
    id := ← row.required "id" Json.word?
    timestamp := ← row.required "timestampSeconds" Json.word?
    kind := ← row.required "type" (Json.tag? EventKind.ofName?)
    description := ← row.required "description" Json.text?
    data := ← row.withDefault "data" .null data?
    tone := ← row.withDefault "severity" .info (Json.tag? EventTone.ofName?) }

end Event

structure EventLog where
  events : Array Event := #[]

namespace EventLog

def push (log : EventLog) (e : Event) : EventLog :=
  ⟨log.events.push { e with id := log.events.size + 1 }⟩

def size (log : EventLog) : Nat := log.events.size

def isEmpty (log : EventLog) : Bool := log.events.isEmpty

end EventLog

end Storyline

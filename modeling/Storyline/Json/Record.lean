import Storyline.Json.Basic
import Storyline.Number.Bounded
import Storyline.Sorted.Map

/-!
Records in JSON. A record is an object, or an array of its fields in declared order. Fields that
are not declared are passed over; a declared field may stand only once.
-/
namespace Storyline.Json

variable {α κ : Type}

def text? : Json → Option String
  | string s => some s
  | _ => none

def flag? : Json → Option Bool
  | bool b => some b
  | _ => none

def natural? (bound : Nat) : Json → Option Nat
  | integer n => if 0 ≤ n ∧ n ≤ bound then some n.toNat else none
  | _ => none

def word? (j : Json) : Option Nat := natural? Bounded.greatestWord j

def integer? : Json → Option Int
  | integer n => if Bounded.InRange n then some n else none
  | _ => none

def number? : Json → Option Float
  | integer n => some (Float.ofInt n)
  | real x => some x
  | _ => none

def ofNumber (x : Float) : Json := if x.isFinite then real x else null

def listOf? (item : Json → Option α) : Json → Option (List α)
  | array items => items.mapM item
  | _ => none

def optional? (value : Json → Option α) : Json → Option (Option α)
  | null => some none
  | j => (value j).map some

def ofOptional (value : α → Json) : Option α → Json
  | none => null
  | some v => value v

/-- One name out of several, alone or as the only field of an object, whose value is null. -/
def tag? (read : String → Option α) : Json → Option α
  | string s => read s
  | object [(s, null)] => read s
  | _ => none

section Map

variable [Ord κ] [Std.TransOrd κ] [Std.LawfulEqOrd κ]

def readMember (key : String → Option κ) (value : Json → Option α) (e : String × Json) :
    Option (κ × α) := do
  let k ← key e.1
  let v ← value e.2
  return (k, v)

/-- An object whose names are keys; of fields with one key the last counts. -/
def mapOf? (key : String → Option κ) (value : Json → Option α) : Json → Option (SortedMap κ α)
  | object fields => (fields.mapM (readMember key value)).map SortedMap.ofList
  | _ => none

end Map

def ofMap [Ord κ] (key : κ → String) (value : α → Json) (m : SortedMap κ α) : Json :=
  object (m.entries.map fun e => (key e.1, value e.2))

def namedMap? (value : Json → Option α) (j : Json) : Option (SortedMap String α) :=
  mapOf? some value j

def ofNamedMap (value : α → Json) (m : SortedMap String α) : Json := ofMap id value m

structure Row where
  byPosition : Bool
  cells : List (String × Json)

def row? (names : List String) : Json → Option Row
  | object fields =>
    let cells := fields.filter fun f => names.contains f.1
    if (cells.map (·.1)).Nodup then some ⟨false, cells⟩ else none
  | array items =>
    if items.length ≤ names.length then some ⟨true, names.zip items⟩ else none
  | _ => none

def Row.required (r : Row) (name : String) (value : Json → Option α) : Option α :=
  (r.cells.lookup name).bind value

def Row.withDefault (r : Row) (name : String) (default : α) (value : Json → Option α) :
    Option α :=
  match r.cells.lookup name with
  | none => some default
  | some j => value j

def Row.maybe (r : Row) (name : String) (value : Json → Option α) : Option (Option α) :=
  r.withDefault name none (optional? value)

/-- A field that may be null; by position it has to be present. -/
def Row.nullable (r : Row) (name : String) (value : Json → Option α) : Option (Option α) :=
  if r.byPosition then r.required name (optional? value) else r.maybe name value

end Storyline.Json

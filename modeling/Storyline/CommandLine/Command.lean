import Storyline.CommandLine.Arguments
import Storyline.Content.Quest
import Storyline.Decimal.Reading

/-! The commands and the arguments that each of them takes. -/
namespace Storyline

structure PlayOptions where
  arc : RecordId
  style : String := "balanced"
  minutes : Nat := 60
  seed : Option Nat := none
  player : Option String := none
  store : Option String := none
  verbose : Bool := false

inductive Command where
  | validate (project : String)
  | quest (project : String) (quest : RecordId)
  | status (project : String)
  | simulate (project : String) (options : PlayOptions)
  | batch (project requests : String) (store : Option String)
  | compare (store : String) (ids : List String)
  | analyze (store id : String)

inductive Invocation where
  /-- A command, and whether its answer is to be a document rather than text. -/
  | run (command : Command) (asJson : Bool)
  | version (name : String)
  | help
  | misuse

namespace Command

def isPath (value : String) : Bool := value ≠ ""

def minutes? (value : String) : Option Nat :=
  (Decimal.integer? value).bind fun n =>
    if 0 ≤ n ∧ n ≤ Quest.greatestMinutes then some n.toNat else none

/-- The greatest seed is the greatest number of sixty-four bits; a seed has no minus sign. -/
def seed? (value : String) : Option Nat :=
  if value.startsWith "-" then none
  else (Decimal.integer? value).bind fun n => if n ≤ Bounded.greatestWord then some n.toNat else none

def anyText (_ : String) : Bool := true

def commonOptions : List OptionShape :=
  [{ name := "help", letter := 'h', role := .help },
    { name := "version", letter := 'V', role := .version }]

def withJson (options : List OptionShape) : List OptionShape :=
  options ++ [{ name := "json", role := .flag }] ++ commonOptions

def storeOption (required : Bool) : OptionShape :=
  { name := "store", role := .value isPath, required }

def playOptions : List OptionShape :=
  [{ name := "arc", letter := 'a', role := .value anyText, required := true },
    { name := "style", letter := 's', role := .value anyText },
    { name := "minutes", letter := 'm', role := .value fun v => (minutes? v).isSome },
    { name := "seed", role := .value fun v => (seed? v).isSome },
    { name := "player", letter := 'p', role := .value anyText },
    storeOption false,
    { name := "verbose", letter := 'v', role := .flag }]

def playOptionsOf? (a : Arguments) : Option PlayOptions := do
  let arc ← a.value? "arc"
  let plain : PlayOptions := { arc }
  return { plain with
    style := (a.value? "style").getD plain.style
    minutes := ((a.value? "minutes").bind minutes?).getD plain.minutes
    seed := (a.value? "seed").bind seed?
    player := a.value? "player"
    store := a.value? "store"
    verbose := a.has "verbose" }

def shape? : String → Option CommandShape
  | "validate" => some { options := withJson [], places := [isPath] }
  | "quest" => some { options := withJson [], places := [isPath, anyText] }
  | "status" => some { options := withJson [], places := [isPath] }
  | "simulate" => some { options := withJson playOptions, places := [isPath] }
  | "batch" => some { options := withJson [storeOption false], places := [isPath, isPath] }
  | "compare" => some { options := withJson [storeOption true], many := true }
  | "analyze" => some { options := withJson [storeOption true], places := [anyText] }
  | _ => none

def ofArguments? (name : String) (a : Arguments) : Option Command :=
  match name, a.places with
  | "validate", [project] => some (validate project)
  | "quest", [project, id] => some (quest project id)
  | "status", [project] => some (status project)
  | "simulate", [project] => (playOptionsOf? a).map (simulate project)
  | "batch", [project, requests] => some (batch project requests (a.value? "store"))
  | "compare", ids => (a.value? "store").map (compare · ids)
  | "analyze", [id] => (a.value? "store").map (analyze · id)
  | _, _ => none

end Command

namespace Invocation

def program : String := "qw"

def ofInterruption (name : String) : Interruption → Invocation
  | .misuse => misuse
  | .help => help
  | .version => version name

def ofHelp : List String → Invocation
  | [] => help
  | [name] => if name = "help" ∨ (Command.shape? name).isSome then help else misuse
  | _ => misuse

def ofOption (option : String) : Invocation :=
  match ArgumentReading.step { options := Command.commonOptions } {} option with
  | .ok _ => misuse
  | .error e => ofInterruption program e

def ofArguments : List String → Invocation
  | [] => misuse
  | "help" :: rest => ofHelp rest
  | name :: rest =>
    match Command.shape? name with
    | none => ofOption name
    | some shape =>
      match shape.read rest with
      | .error e => ofInterruption (program ++ "-" ++ name) e
      | .ok found =>
        match Command.ofArguments? name found with
        | some command => run command (found.has "json")
        | none => misuse

end Invocation

end Storyline

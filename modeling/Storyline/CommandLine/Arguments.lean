/-!
Arguments on a command line. Options may stand anywhere and are spelt long, or short as letters that
share one hyphen; after two hyphens alone every argument is meant as it stands. The arguments are
read from left to right, and the first one that cannot be used, or that asks for help or for the
version, ends the reading.
-/
namespace Storyline

inductive OptionRole where
  | help
  | version
  | flag
  | value (accepts : String → Bool)

structure OptionShape where
  name : String
  letter : Option Char := none
  role : OptionRole
  required : Bool := false

structure CommandShape where
  options : List OptionShape
  /-- The tests of the arguments that stand by their place; all of them are needed. -/
  places : List (String → Bool) := []
  many : Bool := false

inductive Interruption where
  | misuse
  | help
  | version

structure Arguments where
  options : List (String × String) := []
  places : List String := []

namespace Arguments

def value? (a : Arguments) (name : String) : Option String := a.options.lookup name

def has (a : Arguments) (name : String) : Bool := (a.value? name).isSome

end Arguments

structure ArgumentReading where
  found : Arguments := {}
  awaiting : Option OptionShape := none
  verbatim : Bool := false

namespace ArgumentReading

def give (r : ArgumentReading) (o : OptionShape) (value : String) :
    Except Interruption ArgumentReading :=
  if r.found.has o.name then .error .misuse
  else .ok { r with
    found := { r.found with options := r.found.options ++ [(o.name, value)] }, awaiting := none }

def giveValue (r : ArgumentReading) (o : OptionShape) (accepts : String → Bool) (value : String) :
    Except Interruption ArgumentReading :=
  if accepts value then r.give o value else .error .misuse

def meet (r : ArgumentReading) (o : OptionShape) : Except Interruption ArgumentReading :=
  match o.role with
  | .help => .error .help
  | .version => .error .version
  | .flag => r.give o ""
  | .value _ => .ok { r with awaiting := some o }

def place (s : CommandShape) (r : ArgumentReading) (argument : String) :
    Except Interruption ArgumentReading :=
  let accepted := match s.places[r.found.places.length]? with
    | some accepts => accepts argument
    | none => s.many
  if accepted then
    .ok { r with found := { r.found with places := r.found.places ++ [argument] } }
  else .error .misuse

/-- Reads the letters after one hyphen. A letter that takes a value takes all that follows, less an
equals sign. -/
def letters (s : CommandShape) (r : ArgumentReading) :
    List Char → Except Interruption ArgumentReading
  | [] => .ok r
  | c :: rest =>
    match s.options.find? (·.letter = some c) with
    | none => .error .misuse
    | some o =>
      match o.role, rest with
      | .value accepts, '=' :: value => r.giveValue o accepts (String.ofList value)
      | .value accepts, v :: value => r.giveValue o accepts (String.ofList (v :: value))
      | _, _ => do letters s (← r.meet o) rest

def long (s : CommandShape) (r : ArgumentReading) (cs : List Char) :
    Except Interruption ArgumentReading :=
  let name := String.ofList (cs.takeWhile (· ≠ '='))
  match s.options.find? (·.name = name) with
  | none => .error .misuse
  | some o =>
    match o.role, cs.dropWhile (· ≠ '=') with
    | .value accepts, _ :: value => r.giveValue o accepts (String.ofList value)
    | _, _ :: _ => .error .misuse
    | _, [] => r.meet o

def unlessAwaiting (r : ArgumentReading) (next : Except Interruption ArgumentReading) :
    Except Interruption ArgumentReading :=
  if r.awaiting.isSome then .error .misuse else next

def plain (s : CommandShape) (r : ArgumentReading) (argument : String) :
    Except Interruption ArgumentReading :=
  match r.awaiting with
  | none => r.place s argument
  | some o =>
    match o.role with
    | .value accepts => r.giveValue o accepts argument
    | _ => .error .misuse

def step (s : CommandShape) (r : ArgumentReading) (argument : String) :
    Except Interruption ArgumentReading :=
  if r.verbatim then r.place s argument
  else
    match argument.toList with
    | ['-', '-'] => r.unlessAwaiting (.ok { r with verbatim := true })
    | '-' :: '-' :: name => r.unlessAwaiting (r.long s name)
    | '-' :: c :: rest => r.unlessAwaiting (r.letters s (c :: rest))
    | _ => r.plain s argument

def isComplete (s : CommandShape) (r : ArgumentReading) : Bool :=
  r.awaiting.isNone && s.places.length ≤ r.found.places.length
    && s.options.all fun o => !o.required || r.found.has o.name

end ArgumentReading

def CommandShape.read (s : CommandShape) (arguments : List String) :
    Except Interruption Arguments := do
  let r ← arguments.foldlM (ArgumentReading.step s) {}
  if r.isComplete s then return r.found else throw .misuse

end Storyline

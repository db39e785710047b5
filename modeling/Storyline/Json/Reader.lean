import Storyline.Json.Number

/-!
Reading a JSON text. The grammar is strict: no comments, no trailing commas, nothing but white
space around the one value. Open arrays and objects stand on a stack, so nesting has no limit.
-/
namespace Storyline.Json

def isSpace (c : Char) : Bool := c == ' ' || c == '\t' || c == '\n' || c == '\r'

def skipSpace (cs : List Char) : List Char := cs.dropWhile isSpace

def hexValue? (c : Char) : Option Nat :=
  if '0' ≤ c ∧ c ≤ '9' then some (c.toNat - '0'.toNat)
  else if 'a' ≤ c ∧ c ≤ 'f' then some (c.toNat - 'a'.toNat + 10)
  else if 'A' ≤ c ∧ c ≤ 'F' then some (c.toNat - 'A'.toNat + 10)
  else none

def takeHex? : List Char → Option (Nat × List Char)
  | a :: b :: c :: d :: rest => do
    let a ← hexValue? a
    let b ← hexValue? b
    let c ← hexValue? c
    let d ← hexValue? d
    return (4096 * a + 256 * b + 16 * c + d, rest)
  | _ => none

def simpleEscape? : Char → Option Char
  | '"' => some '"'
  | '\\' => some '\\'
  | '/' => some '/'
  | 'b' => some '\x08'
  | 'f' => some '\x0c'
  | 'n' => some '\n'
  | 'r' => some '\r'
  | 't' => some '\t'
  | _ => none

/-- A text as it is being read, last character first, and whether it has a value. -/
structure TextSoFar where
  reversed : List Char
  whole : Bool

def TextSoFar.push (t : TextSoFar) (c : Char) : TextSoFar := { t with reversed := c :: t.reversed }

/-- One character or escape of a quoted text; none where the text is malformed. A surrogate counts
only with its other half. -/
def takeUnit? (t : TextSoFar) : List Char → Option (TextSoFar × List Char)
  | '\\' :: 'u' :: rest => do
    let (unit, rest) ← takeHex? rest
    if 0xD800 ≤ unit ∧ unit ≤ 0xDBFF then
      match rest with
      | '\\' :: 'u' :: more =>
        let (low, after) ← takeHex? more
        if 0xDC00 ≤ low ∧ low ≤ 0xDFFF then
          let code := 0x10000 + (unit - 0xD800) * 1024 + (low - 0xDC00)
          return (t.push (Char.ofNat code), after)
        else return ({ t with whole := false }, rest)
      | _ => return ({ t with whole := false }, rest)
    else if 0xDC00 ≤ unit ∧ unit ≤ 0xDFFF then return ({ t with whole := false }, rest)
    else return (t.push (Char.ofNat unit), rest)
  | '\\' :: c :: rest => (simpleEscape? c).map fun d => (t.push d, rest)
  | c :: rest => if c.toNat < 0x20 then none else some (t.push c, rest)
  | [] => none

/-- Parts a text at the first quote that no backslash stands before; the quote belongs to neither
part. -/
def splitQuoted? (reversed : List Char) : List Char → Option (List Char × List Char)
  | [] => none
  | '"' :: rest => some (reversed.reverse, rest)
  | '\\' :: c :: rest => splitQuoted? (c :: '\\' :: reversed) rest
  | c :: rest => splitQuoted? (c :: reversed) rest

def takeUnits? : Nat → TextSoFar → List Char → Option TextSoFar
  | _, t, [] => some t
  | 0, _, _ => none
  | n + 1, t, cs => do
    let (t, rest) ← takeUnit? t cs
    takeUnits? n t rest

/-- Reads a text whose opening quote is gone; it is `none` inside where it has no value. -/
def takeQuoted? (cs : List Char) : Option (Option String × List Char) := do
  let (quoted, rest) ← splitQuoted? [] cs
  let t ← takeUnits? quoted.length ⟨[], true⟩ quoted
  return (if t.whole then some (String.ofList t.reversed.reverse) else none, rest)

inductive Frame where
  | items (reversed : List Json)
  | fields (reversed : List (String × Json)) (whole : Bool) (name : Option String)

inductive Place where
  | before
  | after (value : Json)

structure Reader where
  place : Place
  stack : List Frame
  rest : List Char

def Reader.name? (reversed : List (String × Json)) (whole : Bool) (stack : List Frame)
    (cs : List Char) : Option Reader :=
  match skipSpace cs with
  | '"' :: rest => do
    let (name, rest) ← takeQuoted? rest
    match skipSpace rest with
    | ':' :: rest => return ⟨.before, .fields reversed whole name :: stack, rest⟩
    | _ => none
  | _ => none

def Reader.keyword? (stack : List Frame) (cs : List Char) : Option Reader :=
  match cs with
  | 't' :: 'r' :: 'u' :: 'e' :: rest => some ⟨.after (bool true), stack, rest⟩
  | 'f' :: 'a' :: 'l' :: 's' :: 'e' :: rest => some ⟨.after (bool false), stack, rest⟩
  | 'n' :: 'u' :: 'l' :: 'l' :: rest => some ⟨.after null, stack, rest⟩
  | _ => none

def Reader.value? (stack : List Frame) (cs : List Char) : Option Reader :=
  match cs with
  | '[' :: rest =>
    match skipSpace rest with
    | ']' :: after => some ⟨.after (array []), stack, after⟩
    | rest => some ⟨.before, .items [] :: stack, rest⟩
  | '\x7b' :: rest =>
    match skipSpace rest with
    | '\x7d' :: after => some ⟨.after (object []), stack, after⟩
    | rest => name? [] true stack rest
  | '"' :: rest => do
    let (text, rest) ← takeQuoted? rest
    return ⟨.after (text.elim unreadable string), stack, rest⟩
  | c :: _ =>
    if c = '-' ∨ c.isDigit then (takeNumber? cs).map fun (v, rest) => ⟨.after v, stack, rest⟩
    else keyword? stack cs
  | [] => none

/-- Adds a field, or notes that its name has no value. -/
def addField (reversed : List (String × Json)) (name : Option String) (v : Json) :
    List (String × Json) :=
  match name with
  | some name => (name, v) :: reversed
  | none => reversed

def Reader.step? (r : Reader) : Option (Reader ⊕ Json) :=
  match r.place with
  | .before => (value? r.stack (skipSpace r.rest)).map .inl
  | .after v =>
    match r.stack, skipSpace r.rest with
    | [], [] => some (.inr v)
    | [], _ => none
    | .items reversed :: stack, ',' :: rest =>
      some (.inl ⟨.before, .items (v :: reversed) :: stack, rest⟩)
    | .items reversed :: stack, ']' :: rest =>
      some (.inl ⟨.after (array (v :: reversed).reverse), stack, rest⟩)
    | .fields reversed whole name :: stack, ',' :: rest =>
      (name? (addField reversed name v) (whole && name.isSome) stack rest).map .inl
    | .fields reversed whole name :: stack, '\x7d' :: rest =>
      let fields := (addField reversed name v).reverse
      let value := if whole && name.isSome then object fields else unreadable
      some (.inl ⟨.after value, stack, rest⟩)
    | _, _ => none

def Reader.run? : Nat → Reader → Option Json
  | 0, _ => none
  | n + 1, r =>
    match r.step? with
    | none => none
    | some (.inr v) => some v
    | some (.inl next) => run? n next

/-- Reads a whole text. Every step but the last takes a character, so the length bounds them. -/
def read? (text : String) : Option Json :=
  let cs := text.toList
  Reader.run? (cs.length + 2) ⟨.before, [], cs⟩

end Storyline.Json

import Storyline.Text.LowerCase

/-!
Identifiers of 128 bits. They are read as 32 hexadecimal digits, plain or hyphenated, the latter also
in braces or after a label, in any letter case; they are written hyphenated in lower case.
-/
namespace Storyline

structure Uuid where
  bits : BitVec 128
  deriving DecidableEq

namespace Uuid

def number (u : Uuid) : Nat := u.bits.toNat

theorem number_injective {u v : Uuid} (h : u.number = v.number) : u = v := by
  cases u; cases v; exact congrArg Uuid.mk (BitVec.eq_of_toNat_eq h)

/-- Identifiers are ordered as the numbers that their digits write. -/
instance : Ord Uuid := ⟨fun a b => compare a.number b.number⟩

theorem compare_eq (a b : Uuid) : compare a b = compare a.number b.number := rfl

instance : Std.TransOrd Uuid where
  eq_swap {a b} := by
    simp only [compare_eq]
    exact Std.OrientedOrd.eq_swap
  isLE_trans {a b c} h k := by
    simp only [compare_eq] at *
    exact Std.TransOrd.isLE_trans h k

instance : Std.LawfulEqOrd Uuid where
  compare_self {a} := by
    simp only [compare_eq]
    exact Std.ReflOrd.compare_self
  eq_of_compare {a b} h := number_injective (Std.LawfulEqOrd.eq_of_compare h)

def ofNumber (n : Nat) : Uuid := ⟨BitVec.ofNat 128 n⟩

def hexDigits : Nat → Nat → List Char
  | 0, _ => []
  | n + 1, v => hexDigits n (v / 16) ++ [Nat.digitChar (v % 16)]

def display (u : Uuid) : String :=
  let ds := hexDigits 32 u.number
  let group (first count : Nat) := (ds.drop first).take count
  String.ofList (group 0 8 ++ '-' :: group 8 4 ++ '-' :: group 12 4 ++ '-' :: group 16 4
    ++ '-' :: group 20 12)

def hexValue? (c : Char) : Option Nat :=
  if c.isDigit then some (c.toNat - '0'.toNat)
  else if 'a' ≤ c ∧ c ≤ 'f' then some (c.toNat - 'a'.toNat + 10)
  else if 'A' ≤ c ∧ c ≤ 'F' then some (c.toNat - 'A'.toNat + 10)
  else none

def ofDigits? (cs : List Char) : Option Uuid :=
  if cs.length = 32 then
    (cs.mapM hexValue?).map fun ds => ofNumber (ds.foldl (fun n d => 16 * n + d) 0)
  else none

def ofHyphenated? (cs : List Char) : Option Uuid :=
  let hyphens := [8, 13, 18, 23]
  if cs.length = 36 ∧ hyphens.all fun i => cs[i]? == some '-' then
    ofDigits? ((cs.zipIdx.filter fun (_, i) => !hyphens.contains i).map (·.1))
  else none

def urnLabel : List Char := "urn:uuid:".toList

def afterLabel? (cs : List Char) : Option (List Char) :=
  if (cs.take urnLabel.length).map Text.lowerAscii = urnLabel then some (cs.drop urnLabel.length)
  else none

def insideBraces? : List Char → Option (List Char)
  | '\x7b' :: rest => if rest.getLast? = some '\x7d' then some rest.dropLast else none
  | _ => none

def ofChars? (cs : List Char) : Option Uuid :=
  match insideBraces? cs, afterLabel? cs with
  | some inside, _ => ofHyphenated? inside
  | none, some rest => ofHyphenated? rest
  | none, none => ofDigits? cs <|> ofHyphenated? cs

def read? (text : String) : Option Uuid := ofChars? text.toList

def byteCount (cs : List Char) : Nat := (cs.map Char.utf8Size).foldl (· + ·) 0

/-- What a refusal looks at: the characters, the count of bytes before them, and whether they may be
digits alone. -/
structure Suspect where
  chars : List Char
  start : Nat := 0
  mayBePlain : Bool := false

def plainLength : Nat := 36
def bracedLength : Nat := 38
def labelledLength : Nat := 45

/-- A text with the length of an identifier is taken for one, and the characters are counted from
its own start. -/
def suspect (cs : List Char) : Suspect :=
  let bytes := byteCount cs
  if bytes = plainLength then { chars := cs }
  else
    match insideBraces? cs, afterLabel? cs with
    | some inside, _ => { chars := inside, start := if bytes = bracedLength then 0 else 1 }
    | none, some rest =>
      { chars := rest, start := if bytes = labelledLength then 0 else urnLabel.length }
    | none, none => { chars := cs, mayBePlain := true }

def byteOffsets (start : Nat) : List Char → List (Nat × Char)
  | [] => []
  | c :: rest => (start, c) :: byteOffsets (start + c.utf8Size) rest

/-- The first group that does not have its length, and the length that it has. The groups start
where they should when those before them have their lengths. -/
def wrongGroup (size : Nat) (hyphens : List Nat) : Nat × Nat :=
  let starts := [0, 9, 14, 19, 24]
  match (List.range 4).find? fun k => hyphens.getD k 0 + 1 ≠ starts.getD (k + 1) 0 with
  | some k => (k, hyphens.getD k 0 - starts.getD k 0)
  | none => (4, size - 24)

/-- Why a text is no identifier: its length, a foreign character, or its groups. The last group is
counted with all that follows it and the bytes that come before the first. -/
def refusal (text : String) : String :=
  let bytes := text.utf8ByteSize
  let s := suspect text.toList
  let placed := byteOffsets 0 s.chars
  let hyphens := (placed.filter (·.2 = '-')).map (·.1)
  if labelledLength < bytes then "invalid length: found " ++ toString bytes
  else
    match placed.find? fun (_, c) => c ≠ '-' && (hexValue? c).isNone with
    | some (i, c) =>
      "invalid character: found \x60" ++ String.singleton c ++ "\x60 at " ++ toString (s.start + i)
    | none =>
      if hyphens = [] ∧ s.mayBePlain then "invalid length: found " ++ toString bytes
      else if hyphens.length ≠ 4 then
        "invalid group count: expected 5, found " ++ toString (hyphens.length + 1)
      else
        let (group, found) := wrongGroup bytes hyphens
        "invalid group length in group " ++ toString group ++ ": expected "
          ++ toString ([8, 4, 4, 4, 12].getD group 0) ++ ", found " ++ toString found

end Uuid

end Storyline

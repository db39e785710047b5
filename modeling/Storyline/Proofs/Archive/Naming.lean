import Mathlib.Algebra.Group.Nat.Defs
import Storyline.Archive.Basic

/-!
The spelling of identifiers, and of the file names that an archive gives them. What is displayed is
one of the spellings that are read, so the name of a file gives its identifier back, and no two
identifiers share a name.
-/
namespace Storyline

namespace Uuid

theorem length_hexDigits (count n : Nat) : (hexDigits count n).length = count := by
  induction count generalizing n with
  | zero => rfl
  | succ count ih => simp [hexDigits, ih]

theorem hexValue?_digitChar {d : Nat} (small : d < 16) : hexValue? (Nat.digitChar d) = some d := by
  revert d
  decide

theorem digitChar_ne_brace {d : Nat} (small : d < 16) : Nat.digitChar d ≠ '\x7b' := by
  revert d
  decide

theorem lowerAscii_digitChar_ne {d : Nat} (small : d < 16) :
    Text.lowerAscii (Nat.digitChar d) ≠ 'u' := by
  revert d
  decide

def valueOf (digits : List Nat) : Nat := digits.foldl (fun n d => 16 * n + d) 0

theorem hexDigits_value (count n : Nat) :
    ∃ ds, (hexDigits count n).mapM hexValue? = some ds ∧ valueOf ds = n % 16 ^ count := by
  induction count generalizing n with
  | zero => exact ⟨[], rfl, by simp [valueOf, Nat.mod_one]⟩
  | succ count ih =>
    obtain ⟨ds, read, value⟩ := ih (n / 16)
    have last : hexValue? (Nat.digitChar (n % 16)) = some (n % 16) :=
      hexValue?_digitChar (Nat.mod_lt n (by decide))
    refine ⟨ds ++ [n % 16], ?_, ?_⟩
    · simp [hexDigits, List.mapM_append, read, last]
    · have split : n % 16 ^ (count + 1) = 16 * (n / 16 % 16 ^ count) + n % 16 := by
        rw [Nat.pow_succ, Nat.mul_comm, Nat.mod_mul]
        omega
      rw [split, ← value]
      simp [valueOf]

theorem mem_hexDigits {count n : Nat} {c : Char} (here : c ∈ hexDigits count n) :
    ∃ d, d < 16 ∧ c = Nat.digitChar d := by
  induction count generalizing n with
  | zero => simp [hexDigits] at here
  | succ count ih =>
    rcases List.mem_append.1 here with here | here
    · exact ih here
    · exact ⟨n % 16, Nat.mod_lt n (by decide), List.mem_singleton.1 here⟩

theorem ofNumber_number (u : Uuid) : ofNumber u.number = u := by
  simp [ofNumber, number]

theorem ofDigits?_hexDigits (u : Uuid) : ofDigits? (hexDigits 32 u.number) = some u := by
  obtain ⟨ds, read, value⟩ := hexDigits_value 32 u.number
  have bound : u.number < 16 ^ 32 := u.bits.isLt
  rw [Nat.mod_eq_of_lt bound] at value
  rw [ofDigits?, if_pos (length_hexDigits 32 u.number), read, Option.map_some, ← valueOf, value,
    ofNumber_number]

def hyphenated (ds : List Char) : List Char :=
  let group (first count : Nat) := (ds.drop first).take count
  group 0 8 ++ '-' :: group 8 4 ++ '-' :: group 12 4 ++ '-' :: group 16 4 ++ '-' :: group 20 12

theorem display_chars (u : Uuid) : u.display.toList = hyphenated (hexDigits 32 u.number) := by
  simp only [display, hyphenated, String.toList_ofList]

theorem hyphenated_cons (c : Char) (ds : List Char) :
    ∃ rest, hyphenated (c :: ds) = c :: rest := ⟨_, rfl⟩

theorem length_hyphenated {ds : List Char} (count : ds.length = 32) :
    (hyphenated ds).length = 36 := by
  simp [hyphenated, count]

theorem ofHyphenated?_hyphenated {ds : List Char} (count : ds.length = 32) :
    ofHyphenated? (hyphenated ds) = ofDigits? ds := by
  -- written out as thirty-two characters, the digits come out of the groups by evaluation
  have spelled : ds = List.ofFn fun i : Fin 32 => ds.get (i.cast count.symm) := by
    apply List.ext_getElem
    · simp [count]
    · intro i inside written
      rw [List.getElem_ofFn]
      rfl
  rw [spelled]
  rfl

theorem insideBraces?_of_ne {c : Char} (other : c ≠ '\x7b') (rest : List Char) :
    insideBraces? (c :: rest) = none := by
  unfold insideBraces?
  split
  next same => exact absurd (List.cons.inj same).1 other
  next => rfl

theorem afterLabel?_of_ne {c : Char} (other : Text.lowerAscii c ≠ 'u') (rest : List Char) :
    afterLabel? (c :: rest) = none := by
  have label : urnLabel = 'u' :: "rn:uuid:".toList := by decide
  refine if_neg fun same => other ?_
  rw [label] at same
  exact (List.cons.inj same).1

/-- A displayed identifier has neither braces nor a label, and too many characters for digits
alone. -/
theorem ofChars?_display (u : Uuid) : ofChars? u.display.toList = some u := by
  have count : (hexDigits 32 u.number).length = 32 := length_hexDigits 32 u.number
  have long : ofDigits? u.display.toList = none := by
    simp [ofDigits?, display_chars, length_hyphenated count]
  have grouped : ofHyphenated? u.display.toList = some u := by
    rw [display_chars, ofHyphenated?_hyphenated count, ofDigits?_hexDigits]
  obtain ⟨d, small, rest, starts⟩ :
      ∃ d, d < 16 ∧ ∃ rest, u.display.toList = Nat.digitChar d :: rest := by
    obtain ⟨c, cs, spelled⟩ := List.exists_cons_of_length_eq_add_one count
    obtain ⟨d, small, rfl⟩ := mem_hexDigits (spelled ▸ List.mem_cons_self)
    rw [display_chars, spelled]
    exact ⟨d, small, hyphenated_cons _ _⟩
  have bare : insideBraces? u.display.toList = none := by
    rw [starts]
    exact insideBraces?_of_ne (digitChar_ne_brace small) rest
  have unlabelled : afterLabel? u.display.toList = none := by
    rw [starts]
    exact afterLabel?_of_ne (lowerAscii_digitChar_ne small) rest
  simp [ofChars?, bare, unlabelled, long, grouped]

theorem read?_display (u : Uuid) : read? u.display = some u := ofChars?_display u

theorem display_injective {u v : Uuid} (same : u.display = v.display) : u = v := by
  have read : some u = some v := by rw [← read?_display u, ← read?_display v, same]
  exact Option.some.inj read

end Uuid

namespace Archive

theorem idOfFile?_fileName (id : Uuid) : idOfFile? (fileName id) = some id := by
  have named : (fileName id).endsWith ".json" = true := by
    have suffix : ".json".toList <:+ (fileName id).toList := by simp [fileName]
    simpa only [String.endsWith, String.Slice.endsWith_string_iff, String.copy_toSlice] using suffix
  have stem : (fileName id).toList.take ((fileName id).length - 5) = id.display.toList := by
    simp [fileName, ← String.length_toList]
  rw [idOfFile?, if_pos named, stem, Uuid.ofChars?_display]

theorem fileName_injective {a b : Uuid} (same : fileName a = fileName b) : a = b := by
  apply Uuid.display_injective
  simpa [fileName] using same

end Archive

end Storyline

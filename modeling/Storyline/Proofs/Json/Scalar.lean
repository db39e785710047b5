import Storyline.Json.Reader
import Storyline.Json.Writer

/-!
Scalars as JSON text. A quoted text is read back character by character, whatever was escaped in it,
and a whole number that fits a word is read back as long as its digits end where the text of it does.
-/
namespace Storyline.Json

theorem hexValue?_hexDigit {d : Nat} (small : d < 16) : hexValue? (hexDigit d) = some d := by
  revert d
  decide

theorem hexDigit_ordinary {d : Nat} (small : d < 16) : hexDigit d ≠ '"' ∧ hexDigit d ≠ '\\' := by
  revert d
  decide

theorem escape_cases (c : Char) :
    (∃ d, d ≠ 'u' ∧ simpleEscape? d = some c ∧ escape c = ['\\', d]) ∨
    (c.toNat < 0x20 ∧ escape c =
      ['\\', 'u', '0', '0', hexDigit (c.toNat / 16), hexDigit (c.toNat % 16)]) ∨
    (c ≠ '"' ∧ c ≠ '\\' ∧ 0x20 ≤ c.toNat ∧ escape c = [c]) := by
  by_cases quote : c = '"'
  · subst quote
    exact .inl ⟨'"', by decide, rfl, rfl⟩
  by_cases backslash : c = '\\'
  · subst backslash
    exact .inl ⟨'\\', by decide, rfl, rfl⟩
  by_cases backspace : c = '\x08'
  · subst backspace
    exact .inl ⟨'b', by decide, rfl, rfl⟩
  by_cases feed : c = '\x0c'
  · subst feed
    exact .inl ⟨'f', by decide, rfl, rfl⟩
  by_cases line : c = '\n'
  · subst line
    exact .inl ⟨'n', by decide, rfl, rfl⟩
  by_cases carriage : c = '\r'
  · subst carriage
    exact .inl ⟨'r', by decide, rfl, rfl⟩
  by_cases tab : c = '\t'
  · subst tab
    exact .inl ⟨'t', by decide, rfl, rfl⟩
  by_cases control : c.toNat < 0x20
  · refine .inr (.inl ⟨control, ?_⟩)
    simp [escape, *]
  · refine .inr (.inr ⟨quote, backslash, by omega, ?_⟩)
    simp [escape, *]

theorem splitQuoted?_ordinary {c : Char} (quote : c ≠ '"') (backslash : c ≠ '\\')
    (reversed rest : List Char) :
    splitQuoted? reversed (c :: rest) = splitQuoted? (c :: reversed) rest := by
  rw [splitQuoted?.eq_def]
  split <;> simp_all

/-- Nothing that a character is written as ends the text. -/
theorem splitQuoted?_escape (c : Char) (reversed rest : List Char) :
    splitQuoted? reversed (escape c ++ rest) =
      splitQuoted? ((escape c).reverse ++ reversed) rest := by
  obtain ⟨d, -, -, written⟩ | ⟨control, written⟩ | ⟨quote, backslash, -, written⟩ :=
    escape_cases c
  · rw [written]
    rfl
  · obtain ⟨highQuote, highBackslash⟩ := hexDigit_ordinary (d := c.toNat / 16) (by omega)
    obtain ⟨lowQuote, lowBackslash⟩ := hexDigit_ordinary (d := c.toNat % 16) (by omega)
    rw [written]
    simp only [List.cons_append, List.nil_append]
    rw [splitQuoted?, splitQuoted?_ordinary (by decide) (by decide),
      splitQuoted?_ordinary (by decide) (by decide), splitQuoted?_ordinary highQuote highBackslash,
      splitQuoted?_ordinary lowQuote lowBackslash]
    rfl
  · rw [written]
    exact splitQuoted?_ordinary quote backslash reversed rest

theorem takeHex?_control {n : Nat} (control : n < 0x20) (rest : List Char) :
    takeHex? ('0' :: '0' :: hexDigit (n / 16) :: hexDigit (n % 16) :: rest) = some (n, rest) := by
  have zero : hexValue? '0' = some 0 := rfl
  have whole : 16 * (n / 16) + n % 16 = n := by omega
  simp [takeHex?, zero, hexValue?_hexDigit (d := n / 16) (by omega),
    hexValue?_hexDigit (d := n % 16) (by omega), whole]

theorem takeUnit?_escape (t : TextSoFar) (c : Char) (rest : List Char) :
    takeUnit? t (escape c ++ rest) = some (t.push c, rest) := by
  obtain ⟨d, other, simple, written⟩ | ⟨control, written⟩ | ⟨-, backslash, printable, written⟩ :=
    escape_cases c
  · rw [written, List.cons_append, List.singleton_append, takeUnit?, simple, Option.map_some]
    exact fun same => absurd same other
  · have low : ¬ (0xD800 ≤ c.toNat ∧ c.toNat ≤ 0xDBFF) := by omega
    have high : ¬ (0xDC00 ≤ c.toNat ∧ c.toNat ≤ 0xDFFF) := by omega
    rw [written]
    simp [takeUnit?, takeHex?_control control, low, high, Char.ofNat_toNat]
  · rw [written, List.singleton_append, takeUnit?, if_neg (by omega)]
    · rintro more rfl
      exact absurd rfl backslash
    · rintro d more rfl
      exact absurd rfl backslash

theorem length_escape (c : Char) : 0 < (escape c).length := by
  obtain ⟨d, -, -, written⟩ | ⟨-, written⟩ | ⟨-, -, -, written⟩ := escape_cases c <;> simp [written]

theorem splitQuoted?_flatMap (cs reversed rest : List Char) :
    splitQuoted? reversed (cs.flatMap escape ++ '"' :: rest) =
      some (reversed.reverse ++ cs.flatMap escape, rest) := by
  induction cs generalizing reversed with
  | nil => simp [splitQuoted?]
  | cons c cs ih =>
    rw [List.flatMap_cons, List.append_assoc, splitQuoted?_escape, ih]
    simp

theorem takeUnits?_flatMap (cs : List Char) (t : TextSoFar) (n : Nat)
    (enough : (cs.flatMap escape).length ≤ n) :
    takeUnits? n t (cs.flatMap escape) = some ⟨cs.reverse ++ t.reversed, t.whole⟩ := by
  induction cs generalizing n t with
  | nil => cases n <;> rfl
  | cons c cs ih =>
    have first := length_escape c
    rw [List.flatMap_cons, List.length_append] at enough
    obtain ⟨n, rfl⟩ : ∃ m, n = m + 1 := ⟨n - 1, by omega⟩
    rw [takeUnits?]
    · rw [List.flatMap_cons, takeUnit?_escape]
      have others := ih (t.push c) n (by omega)
      simpa [TextSoFar.push] using others
    · intro none
      have := List.append_eq_nil_iff.1 (List.flatMap_cons ▸ none)
      simp [this.1] at first

theorem takeQuoted?_quote (s : String) (rest : List Char) :
    takeQuoted? (s.toList.flatMap escape ++ '"' :: rest) = some (some s, rest) := by
  rw [takeQuoted?, splitQuoted?_flatMap]
  simp [takeUnits?_flatMap]

/-- What can follow a value in a text: nothing, white space, a comma or a closing bracket. -/
def Ends (rest : List Char) : Prop :=
  ∀ c ∈ rest.head?, isSpace c = true ∨ c = ',' ∨ c = ']' ∨ c = '\x7d'

theorem Ends.cases {c : Char} {rest : List Char} (ends : Ends (c :: rest)) :
    c = ' ' ∨ c = '\t' ∨ c = '\n' ∨ c = '\r' ∨ c = ',' ∨ c = ']' ∨ c = '\x7d' := by
  have first := ends c rfl
  simpa [isSpace, or_assoc] using first

theorem Ends.not_digit {rest : List Char} (ends : Ends rest) : rest.takeWhile Char.isDigit = [] := by
  cases rest with
  | nil => rfl
  | cons c rest => rcases ends.cases with rfl | rfl | rfl | rfl | rfl | rfl | rfl <;> rfl

theorem Ends.no_places {rest : List Char} (ends : Ends rest) :
    takePlaces? rest = some (none, rest) := by
  cases rest with
  | nil => rfl
  | cons c rest => rcases ends.cases with rfl | rfl | rfl | rfl | rfl | rfl | rfl <;> rfl

theorem Ends.no_exponent {rest : List Char} (ends : Ends rest) :
    takeExponent? rest = some (none, rest) := by
  cases rest with
  | nil => rfl
  | cons c rest => rcases ends.cases with rfl | rfl | rfl | rfl | rfl | rfl | rfl <;> rfl

theorem naturalOf_toDigits (n : Nat) : Decimal.naturalOf (Nat.toDigits 10 n) = n := by
  have value := Nat.ofDigitChars_ten_toDigits (n := n)
  rwa [Nat.ofDigitChars_eq_foldl] at value

theorem toDigits_starts {n : Nat} (positive : 0 < n) :
    ∃ d ds, 0 < d ∧ d < 10 ∧ Nat.toDigits 10 n = Nat.digitChar d :: ds := by
  induction n using Nat.strongRecOn with
  | ind n ih =>
    rw [Nat.toDigits_eq_if (by decide)]
    split
    next small => exact ⟨n, [], positive, small, rfl⟩
    next large =>
      obtain ⟨d, ds, some_left, digit, starts⟩ := ih (n / 10) (by omega) (by omega)
      rw [starts]
      exact ⟨d, _, some_left, digit, rfl⟩

theorem isDigit_toDigits {n : Nat} {c : Char} (here : c ∈ Nat.toDigits 10 n) : c.isDigit = true :=
  Nat.isDigit_of_mem_toDigits (by decide) (by decide) here

theorem wholeDigits_of_ne {c : Char} (leading : c ≠ '0') (cs : List Char) :
    wholeDigits (c :: cs) = (c :: cs).takeWhile Char.isDigit := by
  rw [wholeDigits.eq_def]
  split
  next same => exact absurd (List.cons.inj same).1 leading
  next => rfl

theorem digitChar_ne_zero {d : Nat} (digit : d < 10) (positive : 0 < d) :
    Nat.digitChar d ≠ '0' := by
  revert d
  decide

theorem takeWhile_digits {places rest : List Char} (each : ∀ d ∈ places, d.isDigit = true)
    (stops : rest.takeWhile Char.isDigit = []) :
    (places ++ rest).takeWhile Char.isDigit = places := by
  rw [List.takeWhile_append_of_pos each, stops, List.append_nil]

inductive Whole : List Char → Prop
  | zero : Whole ['0']
  | digits {c : Char} {cs : List Char} (leading : c ≠ '0')
      (each : ∀ d ∈ c :: cs, d.isDigit = true) : Whole (c :: cs)

theorem Whole.wholeDigits {whole rest : List Char} (w : Whole whole)
    (stops : rest.takeWhile Char.isDigit = []) : wholeDigits (whole ++ rest) = whole := by
  cases w with
  | zero => rfl
  | digits leading each =>
    have taken := takeWhile_digits each stops
    rw [List.cons_append] at taken ⊢
    rw [wholeDigits_of_ne leading, taken]

theorem whole_toDigits_append {n : Nat} (positive : 0 < n) {cs : List Char}
    (each : ∀ d ∈ cs, d.isDigit = true) : Whole (Nat.toDigits 10 n ++ cs) := by
  obtain ⟨d, ds, some_left, digit, starts⟩ := toDigits_starts positive
  have all : ∀ c ∈ Nat.toDigits 10 n ++ cs, c.isDigit = true :=
    List.forall_mem_append.2 ⟨fun c => isDigit_toDigits, each⟩
  rw [starts, List.cons_append] at all ⊢
  exact .digits (digitChar_ne_zero digit some_left) all

theorem whole_toDigits (n : Nat) : Whole (Nat.toDigits 10 n) := by
  rcases Nat.eq_zero_or_pos n with rfl | positive
  · exact .zero
  · have whole := whole_toDigits_append positive (List.forall_mem_nil _)
    rwa [List.append_nil] at whole

theorem wholeDigits_toDigits (n : Nat) {rest : List Char} (ends : Ends rest) :
    wholeDigits (Nat.toDigits 10 n ++ rest) = Nat.toDigits 10 n :=
  (whole_toDigits n).wholeDigits ends.not_digit

theorem takeNumber?_toDigits {cs rest : List Char} {negative : Bool} {n : Nat} (ends : Ends rest)
    (sign : takeMinus cs = (negative, Nat.toDigits 10 n ++ rest)) :
    takeNumber? cs = some (integerOf negative (Nat.toDigits 10 n), rest) := by
  simp [takeNumber?, sign, wholeDigits_toDigits n ends, ends.no_places, ends.no_exponent,
    Nat.toDigits_ne_nil]

theorem takeMinus_digit {c : Char} (digit : c.isDigit = true) (cs : List Char) :
    takeMinus (c :: cs) = (false, c :: cs) := by
  rw [takeMinus.eq_def]
  split
  next same => exact absurd ((List.cons.inj same).1 ▸ digit) (by decide)
  next => rfl

theorem takeMinus_toDigits (n : Nat) (rest : List Char) :
    takeMinus (Nat.toDigits 10 n ++ rest) = (false, Nat.toDigits 10 n ++ rest) := by
  cases digits : Nat.toDigits 10 n with
  | nil => exact absurd digits Nat.toDigits_ne_nil
  | cons c cs => exact takeMinus_digit (isDigit_toDigits (digits ▸ List.mem_cons_self)) _

def FitsWord (n : Int) : Prop := Bounded.least ≤ n ∧ n ≤ Bounded.greatestWord

instance (n : Int) : Decidable (FitsWord n) := inferInstanceAs (Decidable (_ ∧ _))

theorem takeNumber?_integer {n : Int} (fits : FitsWord n) {rest : List Char} (ends : Ends rest) :
    takeNumber? ((toString n).toList ++ rest) = some (.integer n, rest) := by
  obtain ⟨low, high⟩ := fits
  rw [Int.toString_eq_repr, Int.repr_eq_if]
  split
  next natural =>
    rw [Nat.toList_repr, takeNumber?_toDigits ends (takeMinus_toDigits _ _)]
    have value : integerOf false (Nat.toDigits 10 n.toNat) = .integer n := by
      rw [integerOf, naturalOf_toDigits, if_pos ⟨rfl, by omega⟩, Int.toNat_of_nonneg natural]
    rw [value]
  next negative =>
    rw [String.toList_append, Nat.toList_repr, List.append_assoc]
    have sign : takeMinus ("-".toList ++ (Nat.toDigits 10 (-n).toNat ++ rest)) =
        (true, Nat.toDigits 10 (-n).toNat ++ rest) := rfl
    rw [takeNumber?_toDigits ends sign]
    have size : ((-n).toNat : Int) = -n := Int.toNat_of_nonneg (by omega)
    have value : integerOf true (Nat.toDigits 10 (-n).toNat) = .integer n := by
      have inRange : ((-n).toNat : Int) ≤ Bounded.greatest + 1 := by
        unfold Bounded.least Bounded.greatest at *
        omega
      rw [integerOf, naturalOf_toDigits, if_neg (by simp), if_pos ⟨rfl, by omega, inRange⟩, size,
        Int.neg_neg]
    rw [value]

theorem toString_starts (n : Int) :
    ∃ c cs, (toString n).toList = c :: cs ∧ (c = '-' ∨ c.isDigit = true) := by
  rw [Int.toString_eq_repr, Int.repr_eq_if]
  split
  next =>
    rw [Nat.toList_repr]
    cases digits : Nat.toDigits 10 n.toNat with
    | nil => exact absurd digits Nat.toDigits_ne_nil
    | cons c cs => exact ⟨c, cs, rfl, .inr (isDigit_toDigits (digits ▸ List.mem_cons_self))⟩
  next => exact ⟨'-', _, String.toList_append, .inl rfl⟩

end Storyline.Json

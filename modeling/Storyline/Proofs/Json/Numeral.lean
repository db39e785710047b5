import Storyline.Proofs.Json.Sound

/-!
Numerals. The text of a finite number is well formed: it has a digit or several of them without a
leading zero, and behind those a point with places, an exponent, or both. Up to where the text ends
it is read as one number, which need not be the number that it is the text of.
-/
namespace Storyline.Json

structure Places (cs : List Char) : Prop where
  present : cs ≠ []
  each : ∀ d ∈ cs, d.isDigit = true

inductive Numeral : List Char → Prop
  | places {whole places : List Char} (w : Whole whole) (p : Places places) :
      Numeral (whole ++ '.' :: places)
  | exponent {whole : List Char} (w : Whole whole) (e : Int) :
      Numeral (whole ++ 'e' :: e.repr.toList)
  | both {whole places : List Char} (w : Whole whole) (p : Places places) (e : Int) :
      Numeral (whole ++ '.' :: (places ++ 'e' :: e.repr.toList))

variable {whole places rest : List Char}

theorem Whole.starts (w : Whole whole) : ∃ c cs, whole = c :: cs ∧ c.isDigit = true := by
  cases w with
  | zero => exact ⟨'0', [], rfl, rfl⟩
  | digits leading each => exact ⟨_, _, rfl, each _ List.mem_cons_self⟩

theorem Whole.ne_nil (w : Whole whole) : whole ≠ [] := by
  cases w <;> simp

theorem Whole.take (w : Whole whole) {k : Nat} (positive : 0 < k) : Whole (whole.take k) := by
  obtain ⟨k, rfl⟩ : ∃ m, k = m + 1 := ⟨k - 1, by omega⟩
  cases w with
  | zero =>
    rw [List.take_succ_cons, List.take_nil]
    exact .zero
  | digits leading each =>
    rw [List.take_succ_cons]
    refine .digits leading fun d here => each d ?_
    rw [← List.take_succ_cons] at here
    exact List.mem_of_mem_take here

theorem takePlaces?_places (p : Places places) (stops : rest.takeWhile Char.isDigit = []) :
    takePlaces? ('.' :: (places ++ rest)) = some (some places, rest) := by
  simp [takePlaces?, takeWhile_digits p.each stops, p.present]

theorem takeSign_digit {c : Char} (digit : c.isDigit = true) (cs : List Char) :
    Decimal.takeSign (c :: cs) = (false, c :: cs) := by
  rw [Decimal.takeSign.eq_def]
  split
  next same => exact absurd ((List.cons.inj same).1 ▸ digit) (by decide)
  next same => exact absurd ((List.cons.inj same).1 ▸ digit) (by decide)
  next => rfl

theorem takeSign_toDigits (n : Nat) (rest : List Char) :
    Decimal.takeSign (Nat.toDigits 10 n ++ rest) = (false, Nat.toDigits 10 n ++ rest) := by
  cases digits : Nat.toDigits 10 n with
  | nil => exact absurd digits Nat.toDigits_ne_nil
  | cons c cs => exact takeSign_digit (isDigit_toDigits (digits ▸ List.mem_cons_self)) _

/-- An exponent is read as the number that it is the text of. -/
theorem takeExponent?_exponent (e : Int) (ends : Ends rest) :
    takeExponent? ('e' :: (e.repr.toList ++ rest)) = some (some e, rest) := by
  have digits : ∀ n : Nat,
      (Nat.toDigits 10 n ++ rest).takeWhile Char.isDigit = Nat.toDigits 10 n := fun n =>
    takeWhile_digits (fun d => isDigit_toDigits) ends.not_digit
  rw [Int.repr_eq_if]
  split
  next natural =>
    have value : (e.toNat : Int) = e := Int.toNat_of_nonneg natural
    rw [Nat.toList_repr]
    simp [takeExponent?, takeSign_toDigits, digits, Nat.toDigits_ne_nil, naturalOf_toDigits, value]
  next negative =>
    have value : ((-e).toNat : Int) = -e := Int.toNat_of_nonneg (by omega)
    have sign : Decimal.takeSign ('-' :: (Nat.toDigits 10 (-e).toNat ++ rest)) =
        (true, Nat.toDigits 10 (-e).toNat ++ rest) := rfl
    rw [String.toList_append, Nat.toList_repr, List.append_assoc]
    simp [takeExponent?, sign, digits, Nat.toDigits_ne_nil, naturalOf_toDigits, value]

theorem takePlaces?_exponent (rest : List Char) :
    takePlaces? ('e' :: rest) = some (none, 'e' :: rest) := rfl

theorem realOf_cases (negative : Bool) (significand : Nat) (exponent : Int) :
    (∃ x, realOf negative significand exponent = real x) ∨
      realOf negative significand exponent = unreadable := by
  unfold realOf
  split
  · exact .inl ⟨_, rfl⟩
  · exact .inr rfl

theorem Numeral.starts {cs : List Char} (n : Numeral cs) :
    ∃ c ds, cs = c :: ds ∧ c.isDigit = true := by
  have front : ∀ {whole more}, Whole whole →
      ∃ c ds, whole ++ more = c :: ds ∧ c.isDigit = true := by
    intro whole more w
    obtain ⟨c, ds, rfl, digit⟩ := w.starts
    exact ⟨c, ds ++ more, rfl, digit⟩
  cases n with
  | places w _ => exact front w
  | exponent w _ => exact front w
  | both w _ _ => exact front w

/-- A numeral is read up to where it ends, whatever comes behind it. -/
theorem Numeral.takeNumber? {cs : List Char} (n : Numeral cs) (negative : Bool) :
    ∃ v, ((∃ x, v = real x) ∨ v = unreadable) ∧
      ∀ text rest, Ends rest → takeMinus text = (negative, cs ++ rest) →
        takeNumber? text = some (v, rest) := by
  cases n with
  | @places whole places w p =>
    refine ⟨fractionOf negative whole places 0, realOf_cases _ _ _, ?_⟩
    intro text rest ends sign
    have digits : wholeDigits (whole ++ '.' :: (places ++ rest)) = whole := w.wholeDigits rfl
    have point := takePlaces?_places p ends.not_digit
    simp [Json.takeNumber?, sign, digits, point, ends.no_exponent, w.ne_nil]
  | @exponent whole w e =>
    refine ⟨fractionOf negative whole [] e, realOf_cases _ _ _, ?_⟩
    intro text rest ends sign
    have digits : wholeDigits (whole ++ 'e' :: (e.repr.toList ++ rest)) = whole :=
      w.wholeDigits rfl
    have mark := takeExponent?_exponent e ends
    simp [Json.takeNumber?, sign, digits, takePlaces?_exponent, mark, w.ne_nil]
  | @both whole places w p e =>
    refine ⟨fractionOf negative whole places e, realOf_cases _ _ _, ?_⟩
    intro text rest ends sign
    have digits : wholeDigits
        (whole ++ '.' :: (places ++ 'e' :: (e.repr.toList ++ rest))) = whole :=
      w.wholeDigits rfl
    have point := takePlaces?_places p
      (show ('e' :: (e.repr.toList ++ rest)).takeWhile Char.isDigit = [] from rfl)
    have mark := takeExponent?_exponent e ends
    simp [Json.takeNumber?, sign, digits, point, mark, w.ne_nil]

/-! The text of a number is a numeral, with a minus sign where it is negative. -/

theorem isDigit_replicate {k : Nat} : ∀ d ∈ List.replicate k '0', d.isDigit = true := by
  intro d here
  rw [List.eq_of_mem_replicate here]
  rfl

theorem toList_placePoint (s : String) {k : Nat} (some_places : k ≠ 0) :
    let padded := List.replicate (k + 1 - s.length) '0' ++ s.toList
    (Decimal.placePoint s k).toList =
      padded.take (padded.length - k) ++ '.' :: padded.drop (padded.length - k) := by
  simp [Decimal.placePoint, Decimal.zeros, some_places, String.length_toList]

/-- Digits around a point. Zeros are put in front where there are too few. -/
theorem numeral_placePoint (n : Nat) {k : Nat} (some_places : 0 < k) :
    Numeral (Decimal.placePoint n.repr k).toList := by
  have length : n.repr.length = (Nat.toDigits 10 n).length := by
    rw [← String.length_toList, Nat.toList_repr]
  rw [toList_placePoint _ (Nat.ne_of_gt some_places), length, Nat.toList_repr]
  generalize padding : k + 1 - (Nat.toDigits 10 n).length = zeros
  have all : ∀ d ∈ List.replicate zeros '0' ++ Nat.toDigits 10 n, d.isDigit = true :=
    List.forall_mem_append.2 ⟨isDigit_replicate, fun d => isDigit_toDigits⟩
  have present : 0 < (Nat.toDigits 10 n).length := List.length_pos_iff.2 Nat.toDigits_ne_nil
  refine .places ?_ ⟨?_, fun d here => all d (List.mem_of_mem_drop here)⟩
  · cases zeros with
    | zero =>
      rw [List.replicate_zero, List.nil_append]
      exact (whole_toDigits n).take (by omega)
    | succ zeros =>
      have one : (List.replicate (zeros + 1) '0' ++ Nat.toDigits 10 n).length - k = 1 := by
        rw [List.length_append, List.length_replicate]
        omega
      rw [one]
      exact .zero
  · have size : k < (List.replicate zeros '0' ++ Nat.toDigits 10 n).length := by
      rw [List.length_append, List.length_replicate]
      omega
    rw [← List.length_pos_iff, List.length_drop]
    omega

theorem numeral_exponent (n : Nat) (e : Int) :
    Numeral ((Nat.toDigits 10 n).take 1 ++
      ((if (Nat.toDigits 10 n).tail = [] then [] else '.' :: (Nat.toDigits 10 n).tail) ++
        'e' :: e.repr.toList)) := by
  have w : Whole ((Nat.toDigits 10 n).take 1) := (whole_toDigits n).take Nat.one_pos
  split
  next => exact .exponent w e
  next some_left =>
    refine .both w ⟨some_left, fun d here => isDigit_toDigits (List.mem_of_mem_tail here)⟩ e

theorem numeral_scientific (d : Decimal.Digits) : Numeral d.scientific.toList := by
  unfold Decimal.Digits.scientific
  dsimp only
  split
  next natural =>
    obtain ⟨up, -⟩ := natural
    rw [Decimal.Digits.positional, if_pos up]
    have zero : Places ['0'] := ⟨by simp, List.forall_mem_singleton.2 rfl⟩
    by_cases none : d.digits = 0
    · simpa [none] using Numeral.places .zero zero
    · have w := whole_toDigits_append (Nat.pos_of_ne_zero none)
        (isDigit_replicate (k := d.exponent.toNat))
      simpa [none, Decimal.zeros] using Numeral.places w zero
  next large =>
    split
    next medium =>
      rw [Decimal.Digits.positional, if_neg (by omega)]
      exact numeral_placePoint d.digits (by omega)
    next =>
      have numeral := numeral_exponent d.digits ((toString d.digits).length + d.exponent - 1)
      by_cases single : (Nat.toDigits 10 d.digits).tail = []
      · simpa [single] using numeral
      · simpa [single] using numeral

theorem jsonNumber?_of_isFinite {x : Float} (finite : x.isFinite = true) :
    ∃ negative text, Decimal.jsonNumber? x = some (Decimal.signed negative text) ∧
      Numeral text.toList := by
  obtain ⟨negative, m, q, value⟩ := Finite.ofFloat_of_isFinite finite
  refine ⟨negative, (Decimal.shortest .even m q).scientific, ?_, numeral_scientific _⟩
  rw [Decimal.jsonNumber?, value]

/-- The text of a finite number starts like one and is read as one number, up to where it ends. -/
theorem takeNumber?_real {x : Float} (finite : x.isFinite = true) :
    ∃ v, ((∃ y, v = real y) ∨ v = unreadable) ∧
      (∃ c cs, (scalarText (real x)).toList = c :: cs ∧ (c = '-' ∨ c.isDigit = true)) ∧
      ∀ rest, Ends rest → takeNumber? ((scalarText (real x)).toList ++ rest) = some (v, rest) := by
  obtain ⟨negative, text, written, numeral⟩ := jsonNumber?_of_isFinite finite
  obtain ⟨v, kind, read⟩ := numeral.takeNumber? negative
  obtain ⟨c, cs, starts, digit⟩ := numeral.starts
  have spelled : scalarText (real x) = Decimal.signed negative text := by
    rw [scalarText, written, Option.getD_some]
  rw [spelled]
  cases negative with
  | false =>
    refine ⟨v, kind, ⟨c, cs, starts, .inr digit⟩, fun rest ends => read _ rest ends ?_⟩
    rw [Decimal.signed, if_neg (by decide), starts]
    exact takeMinus_digit digit _
  | true =>
    have minus : (Decimal.signed true text).toList = '-' :: text.toList := String.toList_append
    rw [minus]
    exact ⟨v, kind, ⟨'-', text.toList, rfl, .inl rfl⟩, fun rest ends => read _ rest ends rfl⟩

end Storyline.Json

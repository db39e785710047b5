import Storyline.Json.Record
import Storyline.Proofs.Json.Scalar
import Storyline.Proofs.Number.Finite

/-!
Numbers of a JSON value. Whatever text a value is read from, its integers fit a word and its reals
are finite: a real that would be too large is read as unreadable.
-/
namespace Storyline.Json

/-- Values whose integers fit a word and whose reals are finite. Only where there may be gaps are
parts unreadable. -/
inductive Sound (gaps : Bool) : Json → Prop
  | null : Sound gaps null
  | bool (b : Bool) : Sound gaps (bool b)
  | integer {n : Int} (fits : FitsWord n) : Sound gaps (integer n)
  | real {x : Float} (finite : x.isFinite = true) : Sound gaps (real x)
  | string (s : String) : Sound gaps (string s)
  | array {items : List Json} (each : ∀ j ∈ items, Sound gaps j) : Sound gaps (array items)
  | object {fields : List (String × Json)} (each : ∀ f ∈ fields, Sound gaps f.2) :
      Sound gaps (object fields)
  | unreadable (allowed : gaps = true) : Sound gaps unreadable

variable {gaps : Bool}

theorem Sound.number? {j : Json} (sound : Sound gaps j) {x : Float} (read : j.number? = some x) :
    x.isFinite = true := by
  cases sound with
  | integer fits =>
    cases read
    exact Finite.isFinite_ofInt fits.1 fits.2
  | real finite =>
    cases read
    exact finite
  | _ => cases read

/-! Numbers are scaled by powers of ten that are finite and not zero. -/

theorem powerOfTen_eq {e : Nat} (small : e ≤ greatestPower) :
    powerOfTen e = Float.ofScientific 1 false e := by
  unfold greatestPower at small
  have length : (toString 1).length = 1 := by decide
  unfold powerOfTen Decimal.nearest
  dsimp only
  rw [length, if_neg (by omega), if_neg (by omega), decide_eq_false (by omega)]
  rfl

theorem isSolid_powerOfTen {e : Nat} (small : e ≤ greatestPower) :
    Finite.isSolid (powerOfTen e) = true := by
  rcases Nat.lt_or_ge 22 e with large | less
  · rcases Nat.lt_or_eq_of_le small with less | rfl
    · rw [powerOfTen_eq small]
      exact Finite.isSolid_ofScientific large (Nat.le_of_lt_succ less)
    · decide +kernel
  · clear small
    revert e
    decide +kernel
theorem isFinite_scaled? {x : Float} {exponent : Int} (number : x.isNaN = false) {y : Float}
    (fits : scaled? x exponent = some y) : y.isFinite = true := by
  fun_induction scaled? x exponent with
  | case1 => cases fits
  | case2 x exponent small power scaled finite =>
    have solid := isSolid_powerOfTen small
    have number : scaled.isNaN = false := by
      unfold scaled
      split
      · exact Finite.isNaN_mul number solid
      · exact Finite.isNaN_div number solid
    rw [← Option.some.inj fits]
    exact Finite.isFinite_iff.2 ⟨number, eq_false_of_ne_true finite⟩
  | case3 x exponent large zero =>
    cases fits
    exact Finite.isFinite_of_beq_zero zero
  | case4 => cases fits
  | case5 x exponent large other negative ih =>
    exact ih (Finite.isNaN_div number (isSolid_powerOfTen (Nat.le_refl _))) fits

theorem takeFitting_le {n : Nat} (small : n ≤ Bounded.greatestWord) (cs : List Char) :
    (takeFitting n cs).1 ≤ Bounded.greatestWord := by
  fun_induction takeFitting n cs with
  | case1 => exact small
  | case2 n c rest next fits ih => exact ih fits
  | case3 => exact small

theorem isNaN_nearest {n : Nat} (small : n ≤ Bounded.greatestWord) :
    (Decimal.nearest n 0).isNaN = false := by
  unfold Decimal.nearest
  dsimp only
  split
  · decide
  · split
    · decide
    · exact (Finite.isFinite_iff.1 (Finite.isFinite_ofNat (Nat.le_succ_of_le small))).1

theorem isFinite_negateIf (negative : Bool) {x : Float} (finite : x.isFinite = true) :
    (Decimal.negateIf negative x).isFinite = true := by
  cases negative with
  | false => exact finite
  | true => exact Finite.isFinite_neg finite

theorem sound_realOf (negative : Bool) {significand : Nat}
    (small : significand ≤ Bounded.greatestWord) (exponent : Int) :
    Sound true (realOf negative significand exponent) := by
  unfold realOf
  split
  next x scaled =>
    exact .real (isFinite_negateIf negative (isFinite_scaled? (isNaN_nearest small) scaled))
  next => exact .unreadable rfl

theorem sound_integerOf (negative : Bool) (whole : List Char) :
    Sound true (integerOf negative whole) := by
  unfold integerOf
  dsimp only
  split
  next natural =>
    refine .integer ⟨?_, by omega⟩
    unfold Bounded.least
    omega
  next =>
    split
    next below =>
      obtain ⟨-, -, inRange⟩ := below
      unfold Bounded.greatest at inRange
      refine .integer ⟨?_, ?_⟩
      · unfold Bounded.least
        omega
      · unfold Bounded.greatestWord
        omega
    next => exact sound_realOf negative (takeFitting_le (by decide) whole) _

theorem sound_fractionOf (negative : Bool) (whole places : List Char) (exponent : Int) :
    Sound true (fractionOf negative whole places exponent) :=
  sound_realOf negative (takeFitting_le (takeFitting_le (by decide) whole) places) _

theorem sound_takeNumber? {cs rest : List Char} {v : Json}
    (read : takeNumber? cs = some (v, rest)) : Sound true v := by
  simp only [takeNumber?, Option.bind_eq_bind, Option.bind_eq_some_iff] at read
  obtain ⟨_, -, _, -, read⟩ := read
  split at read
  · cases read
  · split at read
    · cases read
      exact sound_integerOf _ _
    · cases read
      exact sound_fractionOf _ _ _ _

def Frame.Sound : Frame → Prop
  | .items reversed => ∀ j ∈ reversed, Json.Sound true j
  | .fields reversed _ _ => ∀ f ∈ reversed, Json.Sound true f.2

theorem sound_addField {reversed : List (String × Json)} {v : Json}
    (each : ∀ f ∈ reversed, Sound true f.2) (name : Option String) (last : Sound true v) :
    ∀ f ∈ addField reversed name v, Sound true f.2 := by
  cases name with
  | none => exact each
  | some name => exact List.forall_mem_cons.2 ⟨last, each⟩

namespace Reader

structure Sound (r : Reader) : Prop where
  place : ∀ v, r.place = .after v → Json.Sound true v
  stack : ∀ f ∈ r.stack, f.Sound

variable {stack : List Frame} {rest : List Char} {r s : Reader}

theorem Sound.before (open_sound : ∀ f ∈ stack, f.Sound) : Sound ⟨.before, stack, rest⟩ :=
  ⟨fun _ same => Place.noConfusion same, open_sound⟩

theorem Sound.after {v : Json} (value : Json.Sound true v) (open_sound : ∀ f ∈ stack, f.Sound) :
    Sound ⟨.after v, stack, rest⟩ := by
  refine ⟨?_, open_sound⟩
  intro w same
  cases same
  exact value

theorem sound_name? {reversed : List (String × Json)} {whole : Bool} {cs : List Char}
    (each : ∀ f ∈ reversed, Json.Sound true f.2) (open_sound : ∀ f ∈ stack, f.Sound)
    (next : name? reversed whole stack cs = some s) : s.Sound := by
  unfold name? at next
  split at next
  · simp only [Option.bind_eq_bind, Option.bind_eq_some_iff] at next
    obtain ⟨_, -, next⟩ := next
    split at next
    · cases next
      exact .before (List.forall_mem_cons.2 ⟨each, open_sound⟩)
    · cases next
  · cases next

theorem sound_keyword? {cs : List Char} (open_sound : ∀ f ∈ stack, f.Sound)
    (next : keyword? stack cs = some s) : s.Sound := by
  unfold keyword? at next
  split at next
  · cases next
    exact .after (.bool true) open_sound
  · cases next
    exact .after (.bool false) open_sound
  · cases next
    exact .after .null open_sound
  · cases next

theorem sound_value? {cs : List Char} (open_sound : ∀ f ∈ stack, f.Sound)
    (next : value? stack cs = some s) : s.Sound := by
  unfold value? at next
  split at next
  · split at next
    · cases next
      exact .after (.array (by simp)) open_sound
    · cases next
      exact .before (List.forall_mem_cons.2 ⟨by simp [Frame.Sound], open_sound⟩)
  · split at next
    · cases next
      exact .after (.object (by simp)) open_sound
    · exact sound_name? (by simp) open_sound next
  · simp only [Option.bind_eq_bind, Option.bind_eq_some_iff] at next
    obtain ⟨⟨text, rest⟩, -, next⟩ := next
    cases next
    cases text with
    | none => exact .after (.unreadable rfl) open_sound
    | some text => exact .after (.string text) open_sound
  · split at next
    · simp only [Option.map_eq_some_iff] at next
      obtain ⟨⟨v, rest⟩, read, rfl⟩ := next
      exact .after (sound_takeNumber? read) open_sound
    · exact sound_keyword? open_sound next
  · cases next

/-- A step keeps what was read sound. -/
theorem Sound.step (sound : r.Sound) (next : r.step? = some (.inl s)) : s.Sound := by
  obtain ⟨place, stack, cs⟩ := r
  obtain ⟨last, open_sound⟩ := sound
  cases place with
  | before =>
    simp only [step?, Option.map_eq_some_iff] at next
    obtain ⟨t, read, same⟩ := next
    cases same
    exact sound_value? open_sound read
  | after v =>
    have value := last v rfl
    simp only [step?] at next
    split at next
    · cases next
    · cases next
    · cases next
      obtain ⟨top, open_sound⟩ := List.forall_mem_cons.1 open_sound
      exact .before (List.forall_mem_cons.2 ⟨List.forall_mem_cons.2 ⟨value, top⟩, open_sound⟩)
    · cases next
      obtain ⟨top, open_sound⟩ := List.forall_mem_cons.1 open_sound
      refine .after (.array fun j here => ?_) open_sound
      exact List.forall_mem_cons.2 ⟨value, top⟩ j (List.mem_reverse.1 here)
    · simp only [Option.map_eq_some_iff] at next
      obtain ⟨t, read, same⟩ := next
      cases same
      obtain ⟨top, open_sound⟩ := List.forall_mem_cons.1 open_sound
      exact sound_name? (sound_addField top _ value) open_sound read
    · cases next
      obtain ⟨top, open_sound⟩ := List.forall_mem_cons.1 open_sound
      refine .after ?_ open_sound
      split
      · refine .object fun f here => ?_
        exact sound_addField top _ value f (List.mem_reverse.1 here)
      · exact .unreadable rfl
    · cases next

theorem Sound.finish (sound : r.Sound) {j : Json} (done : r.step? = some (.inr j)) :
    Json.Sound true j := by
  obtain ⟨place, stack, cs⟩ := r
  cases place with
  | before => simp [step?] at done
  | after v =>
    simp only [step?] at done
    split at done
    · cases done
      exact sound.place _ rfl
    all_goals simp at done

theorem Sound.run? (sound : r.Sound) {n : Nat} {j : Json} (read : run? n r = some j) :
    Json.Sound true j := by
  induction n generalizing r with
  | zero => cases read
  | succ n ih =>
    rw [Reader.run?] at read
    split at read
    · cases read
    · cases read
      exact sound.finish ‹_›
    · exact ih (sound.step ‹_›) read

end Reader

theorem sound_read? {text : String} {j : Json} (read : read? text = some j) : Sound true j :=
  Reader.Sound.run? (.before (by simp)) read

end Storyline.Json

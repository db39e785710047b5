import Mathlib.Data.List.Infix
import Storyline.Text.LowerCase

/-!
Where a text occurs in another. A space stands outside every word, so two texts that are joined by
one are put in lower case apart. What occurs in them joined occurs in one of the two, or goes across
the space.
-/
namespace Storyline.Text

theorem containsList_iff {part text : List Char} :
    containsList part text = true ↔ part <:+: text := by
  induction text with
  | nil => simp [containsList]
  | cons c rest ih =>
    rw [containsList, Bool.or_eq_true, List.isPrefixOf_iff_prefix, ih, List.infix_cons_iff]

theorem occursIn_iff {part text : String} :
    occursIn part text = true ↔ part.toList <:+: text.toList :=
  containsList_iff

/-- A part goes across the space between two texts: it begins at the end of the one and ends at the
beginning of the other. -/
def Bridges (part first second : List Char) : Prop :=
  ∃ front back, part = front ++ ' ' :: back ∧ front <:+ first ∧ back <+: second

theorem infix_joined_iff {part first second : List Char} :
    part <:+: first ++ ' ' :: second ↔
      part <:+: first ∨ part <:+: second ∨ Bridges part first second := by
  rw [List.infix_append_iff, List.infix_cons_iff]
  constructor
  · rintro (inFirst | (ahead | inSecond) | ⟨front, rest, rfl, ends, begins⟩)
    · exact .inl inFirst
    · rcases List.prefix_cons_iff.1 ahead with rfl | ⟨back, rfl, begins⟩
      · exact .inl List.nil_infix
      · exact .inr (.inr ⟨[], back, rfl, List.nil_suffix, begins⟩)
    · exact .inr (.inl inSecond)
    · rcases List.prefix_cons_iff.1 begins with rfl | ⟨back, rfl, follows⟩
      · rw [List.append_nil]
        exact .inl ends.isInfix
      · exact .inr (.inr ⟨front, back, rfl, ends, follows⟩)
  · rintro (inFirst | inSecond | ⟨front, back, rfl, ends, begins⟩)
    · exact .inl inFirst
    · exact .inr (.inl (.inr inSecond))
    · exact .inr (.inr ⟨front, ' ' :: back, rfl, ends, List.cons_prefix_cons.2 ⟨rfl, begins⟩⟩)

theorem bridges_iff {part first second : List Char} : Bridges part first second ↔
    ∃ i < part.length, part[i]? = some ' ' ∧ part.take i <:+ first ∧
      part.drop (i + 1) <+: second := by
  constructor
  · rintro ⟨front, back, rfl, ends, begins⟩
    exact ⟨front.length, by simp, by simp, by simpa using ends, by simpa using begins⟩
  · rintro ⟨i, _, space, ends, begins⟩
    obtain ⟨_, here⟩ := List.getElem?_eq_some_iff.1 space
    refine ⟨_, _, ?_, ends, begins⟩
    rw [← here, ← List.drop_eq_getElem_cons, List.take_append_drop]

instance (part first second : List Char) : Decidable (Bridges part first second) :=
  decidable_of_iff _ bridges_iff.symm

/-! Letters beyond a space do not count as neighbours. -/

theorem facesCased_append_space (near far : List Char) :
    facesCased (near ++ ' ' :: far) = facesCased near := by
  have solid : isCaseIgnorable ' ' = false := by decide +kernel
  have caseless : isCased ' ' = false := by decide +kernel
  unfold facesCased
  induction near with
  | nil => simp [solid, caseless]
  | cons c near ih =>
    rw [List.cons_append, List.dropWhile_cons, List.dropWhile_cons]
    by_cases ignored : isCaseIgnorable c = true
    · simpa only [ignored, if_true] using ih
    · simp only [ignored]
      rfl

theorem lowerChars_past_space (near far l : List Char) :
    lowerChars (near ++ ' ' :: far) l = lowerChars near l := by
  induction l generalizing near with
  | nil => rfl
  | cons c l ih =>
    rw [lowerChars, lowerChars, facesCased_append_space, ← List.cons_append, ih]

theorem lowerChars_append_space (before l l' : List Char) :
    lowerChars before (l ++ ' ' :: l') = lowerChars before l ++ ' ' :: lowerChars [] l' := by
  induction l generalizing before with
  | nil =>
    have image : lowerChar ' ' = [' '] := rfl
    have noSigma : ' '.toNat ≠ 0x3A3 := by decide
    have head : lowerChars before (' ' :: l') = ' ' :: lowerChars (' ' :: before) l' := by
      rw [lowerChars, if_neg noSigma, image, List.singleton_append]
    exact head.trans (congrArg (' ' :: ·) (lowerChars_past_space [] before l'))
  | cons c l ih =>
    rw [List.cons_append, lowerChars, lowerChars, facesCased_append_space, ih, List.append_assoc]

theorem toList_lower_joined (s t : String) :
    (lower (s ++ " " ++ t)).toList = (lower s).toList ++ ' ' :: (lower t).toList := by
  simp only [lower, String.toList_ofList, String.toList_append]
  rw [← lowerChars_append_space, List.append_assoc]
  rfl

/-! No character but the space turns into a space. -/

theorem eq_of_ofNat_eq_space {n : Nat} (space : Char.ofNat n = ' ') : n = 0x20 := by
  by_cases valid : n.isValidChar
  · have image : Char.ofNat n = Char.ofNatAux n valid := dif_pos valid
    exact congrArg Char.toNat (image.symm.trans space)
  · have image : Char.ofNat n = ⟨0, .inl (by decide)⟩ := dif_neg valid
    cases image.symm.trans space

theorem eq_space_of_lowerChar {c : Char} (space : ' ' ∈ lowerChar c) : c = ' ' := by
  have beyond : ∀ r ∈ caseRuns, 0x20 < (r.first : Int) + r.shift := by decide +kernel
  unfold lowerChar at space
  split at space
  · -- a capital letter turns into a small one
    have same := (List.mem_singleton.1 space).symm
    unfold lowerAscii at same
    split at same
    next letter =>
      have first : 'A'.toNat ≤ c.toNat := letter.1
      have code : 'A'.toNat = 65 := rfl
      have image := eq_of_ofNat_eq_space same
      omega
    next => exact same
  · split at space
    · exact absurd space (by decide)
    · split at space
      next r found =>
        have image := eq_of_ofNat_eq_space (List.mem_singleton.1 space).symm
        have above := beyond r (List.mem_of_find?_eq_some found)
        have within := List.find?_some found
        simp only [CaseRun.contains, Bool.and_eq_true, decide_eq_true_eq] at within
        omega
      next => exact (List.mem_singleton.1 space).symm

theorem space_mem_of_lowerChars {before l : List Char} (space : ' ' ∈ lowerChars before l) :
    ' ' ∈ l := by
  induction l generalizing before with
  | nil => cases space
  | cons c l ih =>
    rw [lowerChars, List.mem_append] at space
    rcases space with here | later
    · split at here
      · split at here <;> exact absurd here (by decide)
      · rw [eq_space_of_lowerChar here]
        exact List.mem_cons_self
    · exact List.mem_cons_of_mem _ (ih later)

end Storyline.Text

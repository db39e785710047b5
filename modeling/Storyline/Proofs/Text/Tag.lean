import Mathlib.Data.List.TakeWhile
import Storyline.Text.Blank
import Storyline.Text.LowerCase

/-!
Texts that serve as tags: what is left of them without the white space at their ends, and in lower
case.
-/
namespace Storyline.Text

theorem forall_mem_dropWhile_iff (l : List Char) :
    (∀ c ∈ l.dropWhile isBlank, isBlank c = true) ↔ ∀ c ∈ l, isBlank c = true := by
  induction l with
  | nil => simp
  | cons a l ih =>
    rw [List.dropWhile_cons]
    split
    next blank => simp [ih, blank]
    next => rfl

theorem isBlankText_iff {s : String} : isBlankText s = true ↔ ∀ c ∈ s.toList, isBlank c = true := by
  rw [isBlankText, trim, String.isEmpty_iff, String.ofList_eq_empty_iff, List.reverse_eq_nil_iff,
    List.dropWhile_eq_nil_iff]
  simp only [List.mem_reverse]
  exact forall_mem_dropWhile_iff s.toList

theorem dropWhile_of_solid {l : List Char} (solid : ∀ c ∈ l, isBlank c = false) :
    l.dropWhile isBlank = l := by
  apply List.dropWhile_eq_self_iff.2
  intro nonempty
  simp [solid _ (List.getElem_mem nonempty)]

theorem trim_of_forall_not_blank {s : String} (h : ∀ c ∈ s.toList, isBlank c = false) :
    trim s = s := by
  rw [trim, dropWhile_of_solid h, dropWhile_of_solid (by simpa using h), List.reverse_reverse,
    String.ofList_toList]

theorem exists_trim (s : String) : ∃ before after : List Char,
    s.toList = before ++ (trim s).toList ++ after ∧ (∀ c ∈ before, isBlank c = true) ∧
      ∀ c ∈ after, isBlank c = true := by
  have blank (l : List Char) : ∀ c ∈ l.takeWhile isBlank, isBlank c = true :=
    fun c hc => List.mem_takeWhile_imp hc
  refine ⟨s.toList.takeWhile isBlank,
    ((s.toList.dropWhile isBlank).reverse.takeWhile isBlank).reverse, ?_, blank _, ?_⟩
  · rw [trim, String.toList_ofList, List.append_assoc, ← List.reverse_append,
      List.takeWhile_append_dropWhile, List.reverse_reverse, List.takeWhile_append_dropWhile]
  · intro c hc
    exact blank _ c (List.mem_reverse.1 hc)

theorem trim_append {before word after : List Char} (blankBefore : ∀ c ∈ before, isBlank c = true)
    (solid : ∀ c ∈ word, isBlank c = false) (blankAfter : ∀ c ∈ after, isBlank c = true) :
    trim (String.ofList (before ++ word ++ after)) = String.ofList word := by
  rw [trim, String.toList_ofList, List.append_assoc, List.dropWhile_append_of_pos blankBefore]
  cases word with
  | nil =>
    rw [List.nil_append, List.dropWhile_eq_nil_iff.2 blankAfter]
    rfl
  | cons c word =>
    have starts : ¬ isBlank c = true := by simp [solid c List.mem_cons_self]
    rw [List.cons_append, List.dropWhile_cons_of_neg starts, ← List.cons_append,
      List.reverse_append, List.dropWhile_append_of_pos (by simpa using blankAfter),
      dropWhile_of_solid fun d hd => solid d (List.mem_reverse.1 hd), List.reverse_reverse]

theorem lowerChars_of_ascii (before : List Char) {l : List Char} (h : ∀ c ∈ l, c.toNat < 0x80) :
    lowerChars before l = l.map lowerAscii := by
  induction l generalizing before with
  | nil => rfl
  | cons c l ih =>
    have small := h c List.mem_cons_self
    have noSigma : c.toNat ≠ 0x3A3 := by omega
    rw [lowerChars, if_neg noSigma, ih _ fun d hd => h d (List.mem_cons_of_mem _ hd), lowerChar,
      if_pos small]
    rfl

theorem lower_of_ascii {s : String} (h : ∀ c ∈ s.toList, c.toNat < 0x80) :
    lower s = String.ofList (s.toList.map lowerAscii) := by
  rw [lower, lowerChars_of_ascii [] h]

theorem toNat_lt_of_lowerAscii {c : Char} (h : (lowerAscii c).toNat < 0x80) : c.toNat < 0x80 := by
  unfold lowerAscii at h
  split at h
  next letter =>
    have last : c.toNat ≤ 'Z'.toNat := letter.2
    have : 'Z'.toNat = 90 := rfl
    omega
  next => exact h

theorem lowerAscii_of_isBlank {c : Char} (h : isBlank c = true) : lowerAscii c = c := by
  unfold lowerAscii
  split
  next letter =>
    have first : 'A'.toNat ≤ c.toNat := letter.1
    have last : c.toNat ≤ 'Z'.toNat := letter.2
    have : 'A'.toNat = 65 := rfl
    have : 'Z'.toNat = 90 := rfl
    simp only [isBlank, Bool.or_eq_true, Bool.and_eq_true, decide_eq_true_eq, beq_iff_eq] at h
    omega
  next => rfl

/-- A word in lower case, of ASCII characters and without white space. -/
def IsPlain (word : String) : Prop :=
  ∀ c ∈ word.toList, c.toNat < 0x80 ∧ isBlank c = false ∧ lowerAscii c = c

-- decided letter by letter, not over all characters
instance : DecidablePred IsPlain := fun word =>
  decidable_of_iff
    (word.toList.all fun c => decide (c.toNat < 0x80 ∧ isBlank c = false ∧ lowerAscii c = c))
    (by simp only [IsPlain, List.all_eq_true, decide_eq_true_eq])

namespace IsPlain

variable {word : String} (plain : IsPlain word)

include plain

theorem solid : ∀ c ∈ word.toList, isBlank c = false := fun c hc => (plain c hc).2.1

theorem map_lowerAscii : word.toList.map lowerAscii = word.toList :=
  (List.map_congr_left fun c hc => (plain c hc).2.2).trans (List.map_id _)

end IsPlain

theorem lower_trim_of_same {s word : String} (same : sameIgnoringAsciiCase s word = true)
    (plain : IsPlain word) :
    lower (trim s) = word := by
  have letters : s.toList.map lowerAscii = word.toList := by
    rw [eq_of_beq same, plain.map_lowerAscii]
  have image : ∀ c ∈ s.toList, lowerAscii c ∈ word.toList := fun c hc =>
    letters ▸ List.mem_map_of_mem hc
  have ascii : ∀ c ∈ s.toList, c.toNat < 0x80 := fun c hc =>
    toNat_lt_of_lowerAscii (plain _ (image c hc)).1
  have solid : ∀ c ∈ s.toList, isBlank c = false := by
    intro c hc
    by_contra blank
    have blank : isBlank c = true := by simpa using blank
    have found := image c hc
    rw [lowerAscii_of_isBlank blank] at found
    rw [plain.solid c found] at blank
    cases blank
  rw [trim_of_forall_not_blank solid, lower_of_ascii ascii, letters, String.ofList_toList]

/-! A capital sigma is the one letter whose image depends on its neighbours. -/

theorem lowerChars_of_no_sigma (before : List Char) {l : List Char}
    (h : ∀ c ∈ l, c.toNat ≠ 0x3A3) : lowerChars before l = l.flatMap lowerChar := by
  induction l generalizing before with
  | nil => rfl
  | cons c l ih =>
    obtain ⟨here, later⟩ := List.forall_mem_cons.1 h
    rw [lowerChars, if_neg here, ih _ later, List.flatMap_cons]

theorem no_sigma_of_lowerChars {before l : List Char}
    (ascii : ∀ c ∈ lowerChars before l, c.toNat < 0x80) : ∀ c ∈ l, c.toNat ≠ 0x3A3 := by
  induction l generalizing before with
  | nil => simp
  | cons c l ih =>
    rw [lowerChars] at ascii
    simp only [List.mem_append] at ascii
    intro d hd
    rcases List.mem_cons.1 hd with rfl | hd
    · intro sigma
      -- neither form of the small sigma is an ASCII character
      rw [if_pos sigma] at ascii
      split at ascii
      · exact absurd (ascii _ (.inl List.mem_cons_self)) (by decide)
      · exact absurd (ascii _ (.inl List.mem_cons_self)) (by decide)
    · exact ih (fun e he => ascii e (.inr he)) d hd

def blankCodes : List Nat :=
  List.range' 0x9 5 ++ [0x20, 0x85, 0xA0, 0x1680] ++ List.range' 0x2000 11
    ++ [0x2028, 0x2029, 0x202F, 0x205F, 0x3000]

theorem toNat_mem_blankCodes {c : Char} (h : isBlank c = true) : c.toNat ∈ blankCodes := by
  simp only [isBlank, Bool.or_eq_true, Bool.and_eq_true, decide_eq_true_eq, beq_iff_eq] at h
  simp only [blankCodes, List.mem_append, List.mem_range'_1, List.mem_cons, List.not_mem_nil,
    or_false]
  omega

theorem lowerChar_of_isBlank {c : Char} (h : isBlank c = true) :
    lowerChar c = [c] ∧ c.toNat ≠ 0x3A3 := by
  have kept : ∀ n ∈ blankCodes, lowerChar (Char.ofNat n) = [Char.ofNat n] ∧ n ≠ 0x3A3 := by
    decide +kernel
  simpa using kept c.toNat (toNat_mem_blankCodes h)

theorem flatMap_lowerChar_of_blank {l : List Char} (blank : ∀ c ∈ l, isBlank c = true) :
    l.flatMap lowerChar = l := by
  induction l with
  | nil => rfl
  | cons c l ih =>
    rw [List.flatMap_cons, (lowerChar_of_isBlank (blank c List.mem_cons_self)).1,
      ih fun d hd => blank d (List.mem_cons_of_mem _ hd), List.singleton_append]

theorem lower_trim_lower {s word : String} (reads : lower (trim s) = word)
    (plain : IsPlain word) :
    lower (trim (lower s)) = word := by
  obtain ⟨before, after, parts, blankBefore, blankAfter⟩ := exists_trim s
  have image : lowerChars [] (trim s).toList = word.toList := by
    rw [← reads, lower, String.toList_ofList]
  have noSigma : ∀ c ∈ (trim s).toList, c.toNat ≠ 0x3A3 :=
    no_sigma_of_lowerChars (image ▸ fun c hc => (plain c hc).1)
  have noSigmaAtAll : ∀ c ∈ s.toList, c.toNat ≠ 0x3A3 := by
    intro c hc
    simp only [parts, List.mem_append] at hc
    rcases hc with (hc | hc) | hc
    · exact (lowerChar_of_isBlank (blankBefore c hc)).2
    · exact noSigma c hc
    · exact (lowerChar_of_isBlank (blankAfter c hc)).2
  have lowered : lower s = String.ofList (before ++ word.toList ++ after) := by
    rw [lower, lowerChars_of_no_sigma [] noSigmaAtAll, parts, List.flatMap_append,
      List.flatMap_append, flatMap_lowerChar_of_blank blankBefore,
      flatMap_lowerChar_of_blank blankAfter, ← lowerChars_of_no_sigma [] noSigma, image]
  rw [lowered, trim_append blankBefore plain.solid blankAfter, String.ofList_toList,
    lower_of_ascii fun c hc => (plain c hc).1, plain.map_lowerAscii, String.ofList_toList]

/-! The tags that read as a word, by what stands in them. -/

def Pads (core s : String) : Prop :=
  ∃ before after : List Char, s.toList = before ++ core.toList ++ after ∧
    (∀ c ∈ before, isBlank c = true) ∧ ∀ c ∈ after, isBlank c = true

/-- The tag is the word in any letter case, with white space around it. -/
def Spells (tag word : String) : Prop := ∃ core, Pads core tag ∧ lower core = word

theorem Spells.pad {core tag word : String} (pads : Pads core tag) (spells : Spells core word) :
    Spells tag word := by
  obtain ⟨before, after, parts, blankBefore, blankAfter⟩ := pads
  obtain ⟨inner, ⟨before', after', parts', blankBefore', blankAfter'⟩, same⟩ := spells
  refine ⟨inner, ⟨before ++ before', after' ++ after, ?_, ?_, ?_⟩, same⟩
  · rw [parts, parts']
    simp only [List.append_assoc]
  · exact List.forall_mem_append.2 ⟨blankBefore, blankBefore'⟩
  · exact List.forall_mem_append.2 ⟨blankAfter', blankAfter⟩

theorem mem_lowerChars_of_isBlank {before l : List Char} {c : Char} (blank : isBlank c = true)
    (here : c ∈ l) : c ∈ lowerChars before l := by
  induction l generalizing before with
  | nil => cases here
  | cons d l ih =>
    rw [lowerChars, List.mem_append]
    rcases List.mem_cons.1 here with rfl | later
    · obtain ⟨kept, noSigma⟩ := lowerChar_of_isBlank blank
      rw [if_neg noSigma, kept]
      exact .inl List.mem_cons_self
    · exact .inr (ih later)

theorem lower_trim_eq_iff {tag word : String} (solid : ∀ c ∈ word.toList, isBlank c = false) :
    lower (trim tag) = word ↔ Spells tag word := by
  constructor
  · intro reads
    exact ⟨trim tag, exists_trim tag, reads⟩
  · rintro ⟨core, ⟨before, after, parts, blankBefore, blankAfter⟩, rfl⟩
    have solidCore : ∀ c ∈ core.toList, isBlank c = false := by
      intro c here
      by_contra blank
      have blank : isBlank c = true := by simpa using blank
      have there := solid c (by
        rw [lower, String.toList_ofList]
        exact mem_lowerChars_of_isBlank blank here)
      rw [blank] at there
      cases there
    rw [← String.ofList_toList (s := tag), parts, trim_append blankBefore solidCore blankAfter,
      String.ofList_toList]

def SpellsOneOf (words : List String) (tag : String) : Prop := ∃ word ∈ words, Spells tag word

def Respells (tag word : String) : Prop :=
  ∃ core, Pads core tag ∧ sameIgnoringAsciiCase core word = true

theorem spellsOneOf_iff {words : List String} (plain : ∀ word ∈ words, IsPlain word)
    {tag : String} : SpellsOneOf words tag ↔ lower (trim tag) ∈ words := by
  constructor
  · rintro ⟨word, here, spells⟩
    rwa [(lower_trim_eq_iff (plain word here).solid).2 spells]
  · intro here
    exact ⟨_, here, (lower_trim_eq_iff (plain _ here).solid).1 rfl⟩

theorem Respells.spells {tag word : String} (respells : Respells tag word)
    (plain : IsPlain word) : Spells tag word := by
  obtain ⟨core, pads, same⟩ := respells
  have reads := lower_trim_of_same same plain
  exact .pad pads ((lower_trim_eq_iff plain.solid).1 reads)

end Storyline.Text

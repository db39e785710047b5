import Mathlib.Algebra.BigOperators.Group.List.Basic
import Mathlib.Algebra.BigOperators.Ring.List
import Mathlib.Algebra.Order.BigOperators.Group.List
import Mathlib.Algebra.Order.Group.Int
import Mathlib.Algebra.Ring.Int.Defs
import Storyline.Play.Consequence

/-!
What the characters of a quest credit to their factions. A faction is credited with the sum over its
mentioned characters, and each of these counts in the same direction. So no credit is ever lost, the
order of the characters does not matter, and a betrayal costs just what another quest earns. Sums
are taken as whole numbers; `credits_inRange` says when they stay in the range of words.
-/
namespace Storyline

namespace Quest

variable {q : Quest} {cs ds : List Character}

/-- The change of standing that a character is worth, before it is rounded. -/
def change (t : QuestType) (c : Character) : Float :=
  let base := 5.0 * if t = .betrayal then -1.0 else 1.0
  if c.hasTrait "friendly" then base * 1.2 else if c.hasTrait "hostile" then base * 0.8 else base

theorem roundToInt_change (t : QuestType) (c : Character) :
    roundToInt (change t c) = signOf t * creditFor c := by
  unfold change signOf creditFor
  dsimp only
  split <;> split <;> try split
  all_goals decide +kernel

theorem creditFor_pos (c : Character) : 0 < creditFor c := by
  unfold creditFor
  split <;> try split
  all_goals decide

def worth (cs : List Character) (faction : String) : Int :=
  ((cs.filter fun c => c.factionKey = faction).map creditFor).sum

theorem worth_append (cs ds : List Character) (faction : String) :
    worth (cs ++ ds) faction = worth cs faction + worth ds faction := by
  rw [worth, List.filter_append, List.map_append, List.sum_append, worth, worth]

theorem worth_perm (same : cs.Perm ds) (faction : String) : worth cs faction = worth ds faction :=
  ((same.filter _).map _).sum_eq

theorem worth_of_none {faction : String} (none : ¬ ∃ c ∈ cs, c.factionKey = faction) :
    worth cs faction = 0 := by
  have nobody : (cs.filter fun c => c.factionKey = faction) = [] :=
    List.filter_eq_nil_iff.2 fun c hc same => none ⟨c, hc, by simpa using same⟩
  rw [worth, nobody]
  rfl

theorem worth_pos {faction : String} (some_there : ∃ c ∈ cs, c.factionKey = faction) :
    0 < worth cs faction := by
  obtain ⟨c, hc, same⟩ := some_there
  apply List.sum_pos
  · intro n hn
    obtain ⟨d, _, rfl⟩ := List.mem_map.1 hn
    exact creditFor_pos d
  · have member : c ∈ cs.filter fun c => c.factionKey = faction := by simpa [hc] using same
    exact List.ne_nil_of_mem (List.mem_map_of_mem member)

theorem getD_foldl_credit (q : Quest) (cs : List Character) (m : SortedMap String Int)
    (faction : String) :
    (cs.foldl q.credit m).getD faction 0 = m.getD faction 0 + signOf q.type * worth cs faction := by
  induction cs generalizing m with
  | nil => simp [worth]
  | cons c cs ih =>
    rw [List.foldl_cons, ih]
    by_cases here : c.factionKey = faction
    · simp [credit, SortedMap.getD, worth, here, Int.mul_add, Int.add_assoc]
    · have other : faction ≠ c.factionKey := Ne.symm here
      simp [credit, SortedMap.getD, worth, here, other]

theorem isSome_get?_foldl_credit (q : Quest) (cs : List Character) (m : SortedMap String Int)
    (faction : String) : ((cs.foldl q.credit m).get? faction).isSome = true ↔
      (m.get? faction).isSome = true ∨ ∃ c ∈ cs, c.factionKey = faction := by
  induction cs generalizing m with
  | nil => simp
  | cons c cs ih =>
    rw [List.foldl_cons, ih, credit, SortedMap.get?_insert]
    by_cases here : c.factionKey = faction
    · simp [here]
    · have other : faction ≠ c.factionKey := Ne.symm here
      simp [here, other]

theorem get?_foldl_credit (q : Quest) (cs : List Character) (faction : String) :
    (cs.foldl q.credit ∅).get? faction =
      if ∃ c ∈ cs, c.factionKey = faction then some (signOf q.type * worth cs faction)
      else none := by
  have known := isSome_get?_foldl_credit q cs ∅ faction
  have sum := getD_foldl_credit q cs ∅ faction
  have nothing : (∅ : SortedMap String Int).get? faction = none := rfl
  rw [SortedMap.getD, SortedMap.getD, nothing, Option.getD_none, Int.zero_add] at sum
  cases credited : (cs.foldl q.credit ∅).get? faction with
  | none =>
    rw [credited, nothing] at known
    rw [if_neg fun there => absurd (known.2 (.inr there)) (by simp)]
  | some n =>
    rw [credited, nothing] at known
    rw [credited, Option.getD_some] at sum
    rw [if_pos ((known.1 rfl).resolve_left (by simp)), sum]

theorem signOf_mul_ne_zero (t : QuestType) {n : Int} (positive : 0 < n) : signOf t * n ≠ 0 := by
  unfold signOf
  split <;> omega

-- A faction that is credited at all is credited with something.
theorem reputationDeltas_eq (q : Quest) (cs : List Character) :
    q.reputationDeltas cs = (q.charactersMentioned cs).foldl q.credit ∅ := by
  apply SortedMap.ext_get?
  intro faction
  rw [reputationDeltas, SortedMap.get?_filter, get?_foldl_credit]
  split
  · rename_i some_there
    have credited := signOf_mul_ne_zero q.type (worth_pos some_there)
    simp [Option.filter_some, credited]
  · rfl

theorem get?_reputationDeltas (q : Quest) (cs : List Character) (faction : String) :
    (q.reputationDeltas cs).get? faction =
      if ∃ c ∈ q.charactersMentioned cs, c.factionKey = faction then
        some (signOf q.type * worth (q.charactersMentioned cs) faction)
      else none := by
  rw [reputationDeltas_eq, get?_foldl_credit]

theorem getD_reputationDeltas (q : Quest) (cs : List Character) (faction : String) :
    (q.reputationDeltas cs).getD faction 0 =
      signOf q.type * worth (q.charactersMentioned cs) faction := by
  rw [SortedMap.getD, get?_reputationDeltas]
  split
  · rfl
  · rename_i none
    rw [worth_of_none none]
    simp

theorem contains_reputationDeltas_iff (q : Quest) (cs : List Character) (faction : String) :
    (q.reputationDeltas cs).contains faction = true ↔
      ∃ c ∈ q.charactersMentioned cs, c.factionKey = faction := by
  rw [SortedMap.contains, get?_reputationDeltas]
  split <;> simp [*]

theorem charactersMentioned_perm (q : Quest) (same : cs.Perm ds) :
    (q.charactersMentioned cs).Perm (q.charactersMentioned ds) :=
  same.filter _

theorem reputationDeltas_perm (q : Quest) (same : cs.Perm ds) :
    q.reputationDeltas cs = q.reputationDeltas ds := by
  have mentioned := q.charactersMentioned_perm same
  apply SortedMap.ext_get?
  intro faction
  rw [get?_reputationDeltas, get?_reputationDeltas, worth_perm mentioned]
  simp only [mentioned.mem_iff]

theorem signOf_swap {t t' : QuestType} (turned : t' = .betrayal ↔ t ≠ .betrayal) :
    signOf t' = -signOf t := by
  unfold signOf
  by_cases betrays : t = .betrayal <;> simp [turned, betrays]

/-- Credits add up. A faction is credited with the sum of the changes, each of them rounded, of its
mentioned characters, so with the sum over two lists if these are put together, and in whatever order
they come. It is credited just if it has such a character, never with nothing, and with a loss just
if the quest is a betrayal. So no credit is dropped, and a betrayal costs what the same quest earns
otherwise. -/
theorem credits_add_up (q : Quest) (cs ds : List Character) :
    (∀ faction, (q.reputationDeltas cs).getD faction 0 =
      (((q.charactersMentioned cs).filter fun c => c.factionKey = faction).map fun c =>
        roundToInt (change q.type c)).sum) ∧
    (∀ faction, (q.reputationDeltas (cs ++ ds)).getD faction 0 =
      (q.reputationDeltas cs).getD faction 0 + (q.reputationDeltas ds).getD faction 0) ∧
    (cs.Perm ds → q.reputationDeltas cs = q.reputationDeltas ds) ∧
    (∀ faction, (q.reputationDeltas cs).contains faction = true ↔
      ∃ c ∈ q.charactersMentioned cs, c.faction.getD c.name = faction) ∧
    (∀ faction n, (q.reputationDeltas cs).get? faction = some n →
      if q.type = .betrayal then n < 0 else 0 < n) ∧
    q.reputationDeltas cs = (q.charactersMentioned cs).foldl q.credit ∅ ∧
    ∀ t, (t = .betrayal ↔ q.type ≠ .betrayal) → ∀ faction,
      (({ q with type := t } : Quest).reputationDeltas cs).get? faction =
        ((q.reputationDeltas cs).get? faction).map (- ·) := by
  refine ⟨fun faction => ?_, fun faction => ?_, q.reputationDeltas_perm,
    q.contains_reputationDeltas_iff cs, fun faction n credited => ?_, q.reputationDeltas_eq cs,
    fun t turned faction => ?_⟩
  · simp only [roundToInt_change]
    rw [getD_reputationDeltas, worth]
    exact (List.sum_map_mul_left _ creditFor (signOf q.type)).symm
  · rw [getD_reputationDeltas, getD_reputationDeltas, getD_reputationDeltas, charactersMentioned,
      List.filter_append, worth_append, Int.mul_add]
    rfl
  · rw [get?_reputationDeltas] at credited
    split at credited
    · rename_i some_there
      have positive := worth_pos some_there
      cases credited
      unfold signOf
      split <;> omega
    · cases credited
  · have mentioned : ({ q with type := t } : Quest).charactersMentioned cs =
        q.charactersMentioned cs := rfl
    rw [get?_reputationDeltas, get?_reputationDeltas, mentioned, signOf_swap turned]
    split <;> simp

/-! A guild, and a member of it. -/

def guild : Character := { id := "guild", name := "Guild" }

def member : Character :=
  { id := "mira", name := "Mira", faction := some "Guild", personality := ["Friendly"] }

def desertion : Quest := { id := "q", title := "Mira leaves the guild", type := .betrayal }

theorem desertion_adds_up :
    (desertion.reputationDeltas ([guild] ++ [member])).getD "Guild" 0 = -5 + -6 ∧
    desertion.reputationDeltas [member, guild] = desertion.reputationDeltas [guild, member] ∧
    (desertion.reputationDeltas [guild, member]).contains "Guild" = true ∧
    (({ desertion with type := .fetch } : Quest).reputationDeltas [guild, member]).get? "Guild" =
      some 11 := by
  have costs : (desertion.reputationDeltas [guild, member]).get? "Guild" = some (-11) := by
    decide +kernel
  have one : (desertion.reputationDeltas [guild]).getD "Guild" 0 = -5 := by decide +kernel
  have other : (desertion.reputationDeltas [member]).getD "Guild" 0 = -6 := by decide +kernel
  have told : guild ∈ desertion.charactersMentioned [guild, member] :=
    List.mem_filter.2 ⟨List.mem_cons_self, by decide +kernel⟩
  obtain ⟨_, split, _⟩ := credits_add_up desertion [guild] [member]
  obtain ⟨_, _, order, _⟩ := credits_add_up desertion [member, guild] [guild, member]
  obtain ⟨_, _, _, credited, _, _, turned⟩ := credits_add_up desertion [guild, member] []
  refine ⟨?_, order (.swap _ _ _), (credited "Guild").2 ⟨guild, told, rfl⟩, ?_⟩
  · rw [split, one, other]
  · rw [turned .fetch (by decide), costs]
    rfl

end Quest

end Storyline

import Storyline.Proofs.Play.Choice
import Storyline.Proofs.Play.Halt

/-!
Which of the available quests a style takes, and what that makes of a run. A draw is told by the two
words that follow in the source, the second of which is not always drawn. Positions must be those of
a list that a word can count; what a draw from a longer list comes to is left open.
-/
namespace Storyline

namespace Random.Source

def drawnWord (s : Source) : Nat := s.draw32.1.toNat * wordCount + s.draw32.2.draw32.1.toNat

/-- What is left of a source after a number below n is drawn: a second word is needed just where
the first leaves it open whether there is a carry. -/
def afterDraw (s : Source) (n : Nat) : Source :=
  if wordCount - n < s.draw32.1.toNat * n % wordCount then s.draw32.2.draw32.2 else s.draw32.2

/-- The carry of a second word is that of the whole product, and none where it is not drawn. -/
theorem high_add_carry {w v n : Nat} (few : n ≤ wordCount) (second : v < wordCount) :
    (if wordCount - n < w * n % wordCount then
      w * n / wordCount + if wordCount ≤ w * n % wordCount + v * n / wordCount then 1 else 0
    else w * n / wordCount) = (w * wordCount + v) * n / (wordCount * wordCount) := by
  have least : v * n ≤ (wordCount - 1) * n := Nat.mul_le_mul_right n (by omega)
  have product : (w * wordCount + v) * n = w * n * wordCount + v * n := by
    rw [Nat.add_mul, Nat.mul_right_comm]
  rw [product]
  unfold wordCount at *
  split <;> try split
  all_goals omega

theorem below_eq {n : Nat} (few : n ≤ wordCount) (s : Source) :
    s.below n = (s.drawnWord * n / (wordCount * wordCount), s.afterDraw n) := by
  rw [drawnWord, ← high_add_carry few s.draw32.2.draw32.1.toNat_lt]
  unfold below afterDraw
  dsimp only [widen]
  split <;> rfl

end Random.Source

namespace PlayStyle

open Storyline.Random

def OfType (quests : List Quest) (t : QuestType) (i : Nat) : Prop :=
  ∃ q, quests[i]? = some q ∧ q.type = t

theorem hasType_iff {quests : List Quest} {t : QuestType} {i : Nat} :
    hasType quests t i = true ↔ OfType quests t i := by
  simp [hasType, OfType, Option.any_eq_true]

inductive Takes (style : PlayStyle) (quests : List Quest) (s : Source) :
    List Nat → Option Nat × Source → Prop where
  | nothing : Takes style quests s [] (none, s)
  | preferred {t : QuestType} {before after : List Nat} {i : Nat}
    (wants : style.preferred? = some t) (here : OfType quests t i)
    (earliest : ∀ j ∈ before, ¬ OfType quests t j) :
    Takes style quests s (before ++ i :: after) (some i, s)
  | otherwise {t : QuestType} {first : Nat} {rest : List Nat}
    (wants : style.preferred? = some t) (lacking : ∀ j ∈ first :: rest, ¬ OfType quests t j) :
    Takes style quests s (first :: rest) (some first, s)
  | drawn {available : List Nat} {i : Nat} (open_minded : style.preferred? = none)
    (here : available[s.drawnWord * available.length / (Source.wordCount * Source.wordCount)]? =
      some i) :
    Takes style quests s available (some i, s.afterDraw available.length)

theorem takes_select (style : PlayStyle) (quests : List Quest) (s : Source) {available : List Nat}
    (few : style.preferred? = none → available.length ≤ Source.wordCount) :
    Takes style quests s available (style.select quests available s) := by
  cases available with
  | nil => exact .nothing
  | cons first rest =>
    cases wants : style.preferred? with
    | some t =>
      cases found : (first :: rest).find? (hasType quests t) with
      | none =>
        simp only [select, wants, found, Option.getD_none]
        refine .otherwise wants fun j hj ofType => ?_
        exact List.find?_eq_none.1 found j hj (hasType_iff.2 ofType)
      | some i =>
        simp only [select, wants, found, Option.getD_some]
        obtain ⟨here, before, after, parts, others⟩ := List.find?_eq_some_iff_append.1 found
        rw [parts]
        refine .preferred wants (hasType_iff.1 here) fun j hj ofType => ?_
        simpa [hasType_iff.2 ofType] using others j hj
    | none =>
      have inside := Source.below_lt (n := (first :: rest).length) (Nat.succ_pos _) s
      simp only [select, wants, Source.below_eq (few wants)] at inside ⊢
      have here := List.getElem?_eq_getElem inside
      rw [List.getD_eq_getElem?_getD, here, Option.getD_some]
      exact .drawn wants here

theorem Takes.mem {style : PlayStyle} {quests : List Quest} {s : Source} {available : List Nat}
    {taken : Option Nat × Source} (h : Takes style quests s available taken) {i : Nat}
    (here : taken.1 = some i) : i ∈ available := by
  cases h with
  | nothing => cases here
  | preferred =>
    cases here
    simp
  | otherwise =>
    cases here
    exact List.mem_cons_self
  | drawn _ there =>
    cases here
    exact List.mem_of_getElem? there

theorem Takes.eq_none_iff {style : PlayStyle} {quests : List Quest} {s : Source}
    {available : List Nat} {taken : Option Nat × Source} (h : Takes style quests s available taken) :
    taken.1 = none ↔ available = [] := by
  cases h with
  | nothing => simp
  | preferred => simp
  | otherwise => simp
  | drawn _ there => simpa using List.ne_nil_of_mem (List.mem_of_getElem? there)

end PlayStyle

/-- Of the events of a block only the first, which gets the next number, is a start. -/
theorem Block.TellsOf.eq_of_questStart {b : Block} {s : Scenario} {p : Player} {q : Quest}
    {start finish : Nat} (h : b.TellsOf s p q start finish) {log : EventLog} {e : Event}
    (he : e ∈ (b.events.foldl EventLog.push log).events.toList) (kind : e.kind = .questStart) :
    e ∈ log.events.toList ∨ e = { b.begun with id := log.size + 1 } := by
  rw [EventLog.toList_foldl_push, Block.events_eq, List.mapIdx_cons] at he
  rcases List.mem_append.1 he with old | new
  · exact .inl old
  · rcases List.mem_cons.1 new with first | later
    · exact .inr first
    · obtain ⟨i, inside, rfl⟩ := List.mem_mapIdx.1 later
      have other := h.later_ne_questStart _ (List.getElem_mem inside)
      exact absurd kind other

namespace Run

variable {s : Scenario} {first r r' : Run} {q : Quest}

theorem none_of_pick {t : QuestType} (picked : (pick s r).1 = some q)
    (wants : s.style.preferred? = some t) (other : q.type ≠ t) :
    ∀ o ∈ s.quests, r.canStart o = true → o.type ≠ t := by
  have takes : s.style.Takes s.quests r.source (available s r)
      (s.style.select s.quests (available s r) r.source) :=
    PlayStyle.takes_select s.style s.quests r.source (by simp [wants])
  intro o ho can ofType
  obtain ⟨k, there⟩ := List.mem_iff_getElem?.1 ho
  have among : k ∈ available s r := mem_available_iff.2 ⟨o, there, can⟩
  unfold pick at picked
  generalize s.style.select s.quests (available s r) r.source = taken at takes picked
  generalize available s r = positions at takes among
  cases takes with
  | nothing => cases among
  | preferred wants' here _ =>
    obtain ⟨p, here, same⟩ := here
    simp only [Option.bind_some, here, Option.some.injEq] at picked
    rw [wants, Option.some.injEq] at wants'
    exact other (picked ▸ same.trans wants'.symm)
  | otherwise wants' lacking =>
    rw [wants, Option.some.injEq] at wants'
    exact lacking k among ⟨o, there, ofType.trans wants'⟩
  | drawn open_minded _ =>
    rw [wants] at open_minded
    cases open_minded

structure StartedIn (s : Scenario) (first last : Run) (e : Event) (m : Run) (q : Quest) : Prop where
  before : Reaches s first m
  picked : (pick s m).1 = some q
  after : Reaches s (step s m).1 last
  id : e.id = m.log.size + 1
  quest : e.data.field? "quest_id" = some (.string q.id)

theorem Reaches.exists_started (reached : Reaches s first r)
    (empty : first.log.events.toList = []) :
    ∀ e ∈ r.log.events.toList, e.kind = .questStart → ∃ m q, StartedIn s first r e m q := by
  suffices both : Reaches s first r ∧ ∀ e ∈ r.log.events.toList, e.kind = .questStart →
      ∃ m q, StartedIn s first r e m q from both.2
  refine reached.preserves (P := fun r => Reaches s first r ∧ ∀ e ∈ r.log.events.toList,
    e.kind = .questStart → ∃ m q, StartedIn s first r e m q) ?_ ⟨.refl, by simp [empty]⟩
  rintro r r' next ⟨here, started⟩
  refine ⟨here.tail next, fun e he kind => ?_⟩
  obtain ⟨q, _, picked, a, _, b, tells, _, logged, _⟩ := step_block next
  rw [logged] at he
  rcases tells.eq_of_questStart he kind with old | rfl
  · obtain ⟨m, o, then_⟩ := started e old kind
    exact ⟨m, o, { then_ with after := then_.after.tail next }⟩
  · have goes : (step s r).1 = r' := congrArg Prod.fst (step?_eq_some_iff.1 next)
    exact ⟨r, q, here, picked, goes ▸ .refl, rfl, tells.begun.2⟩

/-- Selection follows the style. Nothing is taken just where nothing is available, and then nothing
is drawn. A style with a preferred type takes the earliest position of a quest of that type, or else
the first of all, and draws nothing. Balanced play divides the range of two words into as many parts
as there are positions and takes the one that the words drawn fall into, so always one of the list.
In every run that steps lead to, each quest that the log tells of as started was picked when no
quest of a preferred type could be started, unless it is of that type itself. -/
theorem selection_follows_style :
    (∀ (style : PlayStyle) (quests : List Quest) (available : List Nat) (source : Random.Source),
      (style.preferred? = none → available.length < Random.Source.wordCount) →
      PlayStyle.Takes style quests source available (style.select quests available source) ∧
      ((style.select quests available source).1 = none ↔ available = []) ∧
      ∀ i, (style.select quests available source).1 = some i → i ∈ available) ∧
    ∀ (s : Scenario) (o : StartingPlayer) (minutes : Nat) (source : Random.Source) (r : Run),
      Reaches s (start s o.player minutes source) r →
      ∀ e ∈ r.log.events.toList, e.kind = .questStart →
        ∃ m q, StartedIn s (start s o.player minutes source) r e m q ∧
          ∀ t, s.style.preferred? = some t → q.type ≠ t →
            ∀ other ∈ s.quests, m.canStart other = true → other.type ≠ t := by
  constructor
  · intro style quests available source few
    have takes := PlayStyle.takes_select style quests source fun drawn => (few drawn).le
    exact ⟨takes, takes.eq_none_iff, fun _ here => takes.mem here⟩
  · intro s o minutes source r reached e he kind
    obtain ⟨m, q, started⟩ := reached.exists_started rfl e he kind
    exact ⟨m, q, started, fun t wants other => none_of_pick started.picked wants other⟩

/-! Two quests for a fighter, who passes over the first. -/

def hunt : Scenario :=
  { quests := [{ id := "parley", type := .dialogue }, { id := "ambush", type := .combat }],
    dialogues := [], characters := [], style := .aggressive }

def huntAtStart : Run := start hunt ({} : StartingPlayer).player 60 (.ofWords [0])

theorem ambush_comes_first :
    (PlayStyle.balanced.select [] [7, 8, 9] (.ofWords [1431655765, 2147483648])).1 = some 8 ∧
    8 ∈ [7, 8, 9] ∧
    ∃ e ∈ (step hunt huntAtStart).1.log.events.toList, e.kind = .questStart ∧
      ∃ m q, StartedIn hunt huntAtStart (step hunt huntAtStart).1 e m q ∧
        (q.type ≠ .combat → ∀ other ∈ hunt.quests, m.canStart other = true →
          other.type ≠ .combat) := by
  obtain ⟨selects, runs⟩ := selection_follows_style
  obtain ⟨_, _, mem⟩ :=
    selects .balanced [] [7, 8, 9] (.ofWords [1431655765, 2147483648]) (by decide)
  -- the second word carries, so the draw goes past the first part of the list
  have carried : (PlayStyle.balanced.select [] [7, 8, 9]
      (.ofWords [1431655765, 2147483648])).1 = some 8 := by decide +kernel
  have told : ∃ e ∈ (step hunt huntAtStart).1.log.events.toList, e.kind = .questStart := by
    decide +kernel
  obtain ⟨e, he, kind⟩ := told
  have reached : Reaches hunt huntAtStart (step hunt huntAtStart).1 := .single rfl
  obtain ⟨m, q, started, law⟩ := runs hunt {} 60 (.ofWords [0]) _ reached e he kind
  exact ⟨carried, mem 8 carried, e, he, kind, m, q, started, law .combat rfl⟩

end Run

end Storyline

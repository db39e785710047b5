import Storyline.Proofs.Play.Choice
import Storyline.Proofs.Play.Duration
import Storyline.Proofs.Play.Mutation
import Storyline.Proofs.Player.Decoding

/-!
Numbers and positions of a run. Some of its sums are held inside the range of their words and some
are not; those that are not stay inside it by themselves, and every position that is looked up is
there. What carries this is that the stats are words, that standing is within its limits, and that
time is left when an attempt begins. Sums that stop at the ends of the range are left to do so.
-/
namespace Storyline

open Bounded (InRange greatestWord)

namespace Player

variable {p : Player}

theorem level_inRange {experience : Int} (fits : InRange experience) :
    InRange (experience.tdiv experiencePerLevel + 1) := by
  have quotient : (experience.tdiv experiencePerLevel).natAbs = experience.natAbs / 100 :=
    Int.natAbs_tdiv ..
  unfold InRange Bounded.least Bounded.greatest at *
  omega

theorem levelFor_inRange {experience : Int} (fits : InRange experience) :
    InRange (levelFor experience) := by
  have level := level_inRange fits
  unfold levelFor InRange Bounded.least Bounded.greatest at *
  omega

theorem recovered_inRange (n : Int) : InRange (min (Bounded.add n 10) resourceCap) := by
  have sum := Bounded.clamp_inRange (n + 10)
  unfold Bounded.add InRange Bounded.least Bounded.greatest resourceCap at *
  omega

theorem stats_addStat (fits : p.stats.InRange) (name : String) (delta : Int) :
    (p.addStat name delta).1.stats.InRange := by
  unfold addStat
  split
  · exact fits
  · exact fits.set _ (Bounded.clamp_inRange _)

theorem stats_applyReward (fits : p.stats.InRange) (w : Reward) :
    (p.applyReward w).1.stats.InRange := by
  unfold applyReward
  cases w.kind with
  | experience => exact stats_addStat fits _ _
  | gold => exact stats_addStat fits _ _
  | stat => exact stats_addStat fits _ _
  | item =>
    dsimp only
    split
    · unfold loseItem
      split <;> exact fits
    · unfold gainItem
      split <;> exact fits
  | flag => exact fits
  | reputation => exact fits

theorem stats_updateLevel (fits : p.stats.InRange) : p.updateLevel.1.stats.InRange := by
  unfold updateLevel
  dsimp only
  split
  · exact fits
  · intro stat
    cases stat with
    | health => exact recovered_inRange _
    | mana => exact recovered_inRange _
    | experience => exact fits .experience
    | level => exact levelFor_inRange (fits .experience)
    | gold => exact fits .gold

theorem stats_mutate (fits : p.stats.InRange) (m : Mutation) : (p.mutate m).stats.InRange := by
  cases m with
  | grant reward => exact stats_applyReward fits reward
  | raiseLevel => exact stats_updateLevel fits
  | _ => exact fits

theorem stats_perform (fits : p.stats.InRange) (ms : List Mutation) :
    (p.perform ms).stats.InRange := by
  unfold perform
  induction ms generalizing p with
  | nil => exact fits
  | cons m ms ih => exact ih (stats_mutate fits m)

/-- Standing moves within its limits, so the shift that was left is small. -/
theorem Balanced.shift_inRange (balanced : p.Balanced) (faction : String) (delta : Int) :
    InRange (p.adjustReputation faction delta).2 := by
  have before := balanced.standing faction
  have after := clampStanding_le (Bounded.add (p.standing faction) delta)
  unfold adjustReputation
  dsimp only
  unfold standingLimit at before after
  exact Bounded.inRange_of_small (by omega)

end Player

namespace Quest

/-- A character moves the sum of its faction by six at most. -/
theorem credit_le (q : Quest) (c : Character) : (signOf q.type * creditFor c).natAbs ≤ 6 := by
  unfold signOf creditFor
  split <;> split <;> try split
  all_goals decide

theorem credits_le (q : Quest) (cs : List Character) (faction : String) :
    ((cs.foldl q.credit ∅).getD faction 0).natAbs ≤ 6 * cs.length := by
  induction cs using List.reverseRecOn generalizing faction with
  | nil => exact Nat.le_refl 0
  | append_singleton cs c ih =>
    have here := ih c.factionKey
    have other := ih faction
    have step := q.credit_le c
    rw [List.foldl_append, List.foldl_cons, List.foldl_nil, List.length_append, credit,
      SortedMap.getD, SortedMap.get?_insert]
    split
    · rw [Option.getD_some, List.length_singleton]
      omega
    · rw [← SortedMap.getD, List.length_singleton]
      omega

/-- How many characters a scenario may have before their credits could leave the range. -/
def crowd : Nat := Nat.pow 2 60

theorem credits_inRange (q : Quest) {characters cs : List Character}
    (few : characters.length < crowd) (some_credited : cs <+: q.charactersMentioned characters)
    (faction : String) : InRange ((cs.foldl q.credit ∅).getD faction 0) := by
  have sum := q.credits_le cs faction
  have mentioned : (q.charactersMentioned characters).length ≤ characters.length :=
    List.length_filter_le ..
  have counted := some_credited.length_le
  unfold crowd at few
  rw [Nat.pow_eq] at few
  unfold InRange Bounded.least Bounded.greatest
  omega

end Quest

namespace Run

variable {s : Scenario} {first r r' : Run} {q : Quest}

/-- What an attempt computes without a guard: the time of its end, and on the way to it the level,
the shifts of standing and the sums that factions credit. -/
structure AttemptInside (s : Scenario) (r : Run) (q : Quest) : Prop where
  finish : r.clock.elapsed + (attemptAt s r q).1.seconds ≤ greatestWord
  clock : (play s r q).clock.elapsed = r.clock.elapsed + (attemptAt s r q).1.seconds
  level : ∀ ms, ms <+: mutations s r q →
    InRange ((r.player.perform ms).stats.experience.tdiv Player.experiencePerLevel + 1)
  shifts : ∀ ms, ms <+: mutations s r q → ∀ faction delta,
    InRange ((r.player.perform ms).adjustReputation faction delta).2
  credits : s.characters.length < Quest.crowd → ∀ cs, cs <+: q.charactersMentioned s.characters →
    ∀ faction, InRange ((cs.foldl q.credit ∅).getD faction 0)

structure StepInside (s : Scenario) (r : Run) : Prop where
  listed : ∀ i ∈ available s r, i < s.quests.length
  drawn : available s r ≠ [] →
    (r.source.below (available s r).length).1 < (available s r).length
  picked : ∀ i, (s.style.select s.quests (available s r) r.source).1 = some i →
    i ∈ available s r
  attempt : ∀ q source, pick s r = (some q, source) → AttemptInside s { r with source } q

theorem mem_of_select {style : PlayStyle} {quests : List Quest} {l : List Nat}
    {source : Random.Source} {i : Nat} (picked : (style.select quests l source).1 = some i) :
    i ∈ l := by
  have some_left : l ≠ [] := by
    rintro rfl
    cases picked
  obtain ⟨j, there, same⟩ := select_mem style quests source some_left
  rw [picked] at same
  cases same
  exact there

theorem lt_of_mem_available {i : Nat} (there : i ∈ available s r) : i < s.quests.length := by
  obtain ⟨q, here, _⟩ := mem_available_iff.1 there
  exact (List.getElem?_eq_some_iff.1 here).1

theorem attemptInside (balanced : r.player.Balanced) (fits : r.player.stats.InRange)
    (short : (attemptAt s r q).1.seconds ≤ Quest.greatestSeconds)
    (early : r.clock.elapsed < Quest.greatestMinutes * 60) : AttemptInside s r q := by
  have finish : r.clock.elapsed + (attemptAt s r q).1.seconds ≤ greatestWord := by
    unfold Quest.greatestSeconds at short
    rw [Nat.pow_eq] at short
    unfold Quest.greatestMinutes at early
    unfold greatestWord
    omega
  refine {
    finish
    clock := ?_
    level := fun ms _ => Player.level_inRange (Player.stats_perform fits ms .experience)
    shifts := fun ms _ => (balanced.perform ms).shift_inRange
    credits := fun few cs part => q.credits_inRange few part }
  rw [(play_ends s r q).clock, Clock.advance]
  exact Nat.min_eq_left finish

theorem Reaches.budget_eq (reached : Reaches s r r') : r'.clock.budget = r.clock.budget := by
  refine reached.preserves (P := fun m => m.clock.budget = r.clock.budget) ?_ rfl
  intro m m' next same
  obtain ⟨_, _, _, _, ended⟩ := step_ends next
  rw [ended.clock]
  exact same

theorem Reaches.stats_inRange (reached : Reaches s r r') (fits : r.player.stats.InRange) :
    r'.player.stats.InRange := by
  refine reached.preserves (P := fun m => m.player.stats.InRange) ?_ fits
  intro m m' next fits
  obtain ⟨q, _, _, source, _, rfl⟩ := exists_picked next
  rw [player_play]
  exact Player.stats_perform fits _

theorem stats_start {o : StartingPlayer} (fits : o.player.stats.InRange) (s : Scenario)
    (minutes : Nat) (source : Random.Source) :
    (start s o.player minutes source).player.stats.InRange := by
  change (enroll s.quests o.player).stats.InRange
  rw [enroll_eq]
  exact Player.stats_perform fits _

/-- Nothing that a run computes leaves its range, and nothing that it looks up is missing. This
holds of every step that is made while there is time left, from any stats that are words, with any
rewards and with quests and a budget of permitted length. The differences of standing from the
beginning are in range in every run that steps lead to, so they are at its end. -/
theorem stays_inside (s : Scenario) {o : StartingPlayer} (fits : o.player.stats.InRange)
    {minutes : Nat} (limited : minutes ≤ Quest.greatestMinutes)
    (permitted : ∀ q ∈ s.quests, q.minutes ≤ Quest.greatestMinutes) (source : Random.Source) :
    ∀ r, Reaches s (start s o.player minutes source) r →
      (r.clock.isExhausted = false → StepInside s r) ∧
      ∀ faction, InRange (r.player.standing faction -
        (start s o.player minutes source).player.standing faction) := by
  intro r reached
  have balanced := reached.balanced
  refine ⟨fun left => ?_, fun faction => ?_⟩
  · have stats := reached.stats_inRange (stats_start fits s minutes source)
    have early : r.clock.elapsed < Quest.greatestMinutes * 60 := by
      have budget : r.clock.budget = minutes * 60 := reached.budget_eq
      have before : r.clock.elapsed < minutes * 60 := by
        simpa [Clock.isExhausted, budget] using left
      omega
    refine {
      listed := fun i => lt_of_mem_available
      drawn := fun some_left =>
        Random.Source.below_lt (List.length_pos_of_ne_nil some_left) r.source
      picked := fun i => mem_of_select
      attempt := ?_ }
    intro q next picked
    obtain ⟨draw, drawn, seconds⟩ := seconds_attemptAt s { r with source := next } q
    refine attemptInside balanced stats ?_ early
    rw [seconds]
    exact Quest.secondsFor_le (permitted q (mem_quests_of_pick picked)) drawn
  · have first := (balanced_start s o minutes source).standing faction
    have last := balanced.standing faction
    unfold Player.standingLimit at first last
    unfold InRange Bounded.least Bounded.greatest
    omega

/-! The feud again, with all the time there is and stats at both ends of the range. -/

def veteran : StartingPlayer :=
  { rogue with
    stats :=
      { health := some Bounded.least, mana := some Bounded.greatest
        experience := some Bounded.greatest, level := some Bounded.least
        gold := some Bounded.least } }

def feudForever : Run := start feud veteran.player Quest.greatestMinutes (.ofSeed 1)

theorem feud_stays_inside : ∃ q next, pick feud feudForever = (some q, next) ∧
    AttemptInside feud { feudForever with source := next } q := by
  have fits : veteran.player.stats.InRange := by
    intro stat
    cases stat <;> decide
  have permitted : ∀ q ∈ feud.quests, q.minutes ≤ Quest.greatestMinutes := by decide
  obtain ⟨inside, _⟩ :=
    stays_inside feud fits (Nat.le_refl _) permitted (.ofSeed 1) feudForever .refl
  have can : feudForever.canStart revenge = true := by
    simp [canStart, feudForever, status_start, revenge]
  obtain ⟨r, goes⟩ := exists_step (s := feud) List.mem_cons_self can
  obtain ⟨q, _, _, next, picked, _⟩ := exists_picked goes
  exact ⟨q, next, picked, (inside rfl).attempt q next picked⟩

end Run

end Storyline

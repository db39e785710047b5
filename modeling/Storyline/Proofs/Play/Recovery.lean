import Storyline.Proofs.Play.Gain

/-!
What a level reached does to health and mana. Each of them recovers by ten, but not beyond the
amount that it recovers up to: a player who has more than that, as a starting player or after a
reward may, is brought down to it. So a level heals just those who have no more. Nothing is claimed
of players whose stats are not words.
-/
namespace Storyline

def Player.Heals (p : Player) (stat : Stat) : Prop :=
  p.stats.get stat ≤ p.updateLevel.1.stats.get stat ∧
    p.updateLevel.1.stats.get stat ≤ p.stats.get stat + 10

namespace Stats

variable {s : Stats} {stat : Stat}

theorem get_raise (resource : stat ∈ Stat.resources) : s.raise.get stat =
    if s.level < s.earnedLevel then min (Bounded.add (s.get stat) 10) Player.resourceCap
    else s.get stat := by
  unfold raise
  rcases List.mem_pair.1 resource with rfl | rfl
  · split <;> rfl
  · split <;> rfl

theorem recovered_cases {n : Int} (fits : Bounded.InRange n) :
    n ≤ Player.resourceCap ∧ n ≤ min (Bounded.add n 10) Player.resourceCap ∧
      min (Bounded.add n 10) Player.resourceCap ≤ n + 10 ∨
    Player.resourceCap < n ∧ min (Bounded.add n 10) Player.resourceCap = Player.resourceCap := by
  unfold Bounded.InRange Bounded.least Bounded.greatest at fits
  unfold Bounded.add Bounded.clamp Bounded.least Bounded.greatest Player.resourceCap
  omega

/-- What was gained before does not matter to whether a stat is brought down. -/
theorem get_raise_lt_iff (resource : stat ∈ Stat.resources) (fits : s.InRange) {n : Int}
    (gained : n ≤ s.get stat) : s.raise.get stat < n ↔
      s.level < s.earnedLevel ∧ Player.resourceCap < n := by
  rw [get_raise resource]
  split
  · rename_i rises
    rcases recovered_cases (fits stat) with ⟨_, _, _⟩ | ⟨_, _⟩ <;> omega
  · rename_i enough
    omega

end Stats

namespace Player

variable {p : Player} {stat : Stat}

theorem updateLevel_snd_eq_none_iff :
    p.updateLevel.2 = none ↔ ¬ p.stats.level < p.stats.earnedLevel := by
  rw [updateLevel_snd]
  split <;> simp [*]

theorem eq_of_updateLevel_snd (still : p.updateLevel.2 = none) : p.updateLevel.1 = p := by
  rcases p.updateLevel_cases with ⟨_, same⟩ | ⟨short, _⟩
  · rw [same]
  · exact absurd short (updateLevel_snd_eq_none_iff.1 still)

theorem heals_iff (resource : stat ∈ Stat.resources) (fits : p.stats.InRange) :
    p.Heals stat ↔ p.updateLevel.2 = none ∨ p.stats.get stat ≤ resourceCap := by
  rw [Heals, stats_updateLevel_eq, Stats.get_raise resource, updateLevel_snd_eq_none_iff]
  split
  · rename_i rises
    rcases Stats.recovered_cases (fits stat) with ⟨_, _, _⟩ | ⟨_, _⟩ <;> omega
  · rename_i enough
    exact iff_of_true ⟨Int.le_refl _, by omega⟩ (.inl enough)

theorem get_updateLevel_of_above (resource : stat ∈ Stat.resources) (fits : p.stats.InRange)
    (rises : p.updateLevel.2 ≠ none) (above : resourceCap < p.stats.get stat) :
    p.updateLevel.1.stats.get stat = resourceCap := by
  rw [Ne, updateLevel_snd_eq_none_iff, not_not] at rises
  rw [stats_updateLevel_eq, Stats.get_raise resource, if_pos rises]
  rcases Stats.recovered_cases (fits stat) with ⟨_, _, _⟩ | ⟨_, down⟩
  · omega
  · exact down

end Player

namespace Run

variable {s : Scenario} {first r : Run} {q : Quest} {p : Player} {ms : List Player.Mutation}

theorem Passes.stats_inRange (passes : Passes s first p ms) (fits : first.player.stats.InRange) :
    p.stats.InRange := by
  cases passes with
  | between reached => exact reached.stats_inRange fits
  | within reached _ _ => exact Player.stats_perform (reached.stats_inRange fits) _

/-- A level heals just those who have no more than they recover up to. For every player of a run, at
any moment of it: where no level is reached nothing changes. Where one is, health or mana grows by
ten at most and does not fall, exactly if it was within that amount; what was beyond is brought down
to it. So a success that takes neither from the player lowers one of them exactly if a level is
reached and the player had more to begin with. Every level heals a player who starts within that
amount, if no reward that a quest declares adds to health or mana. -/
theorem levels_heal_exactly (s : Scenario) {o : StartingPlayer} (fits : o.player.stats.InRange)
    (minutes : Nat) (source : Random.Source) :
    (∀ p ms, Passes s (start s o.player minutes source) p ms →
      (p.updateLevel.2 = none → p.updateLevel.1 = p) ∧
      ∀ stat ∈ Stat.resources,
        (p.Heals stat ↔ p.updateLevel.2 = none ∨ p.stats.get stat ≤ Player.resourceCap) ∧
        (p.updateLevel.2 ≠ none → Player.resourceCap < p.stats.get stat →
          p.updateLevel.1.stats.get stat = Player.resourceCap)) ∧
    (∀ r q next, Reaches s (start s o.player minutes source) r → pick s r = (some q, next) →
      let a := (attemptAt s { r with source := next } q).1
      a.success = true → ∀ stat ∈ Stat.resources, (∀ w ∈ q.rewards, ¬ w.Lowers stat) →
      ((step s r).1.player.stats.get stat < r.player.stats.get stat ↔
        (r.player.perform (a.rewards.map .grant)).updateLevel.2 ≠ none ∧
        Player.resourceCap < r.player.stats.get stat)) ∧
    (o.player.Capped → (∀ q ∈ s.quests, ∀ w ∈ q.rewards, ¬ w.Refills) →
      ∀ p ms, Passes s (start s o.player minutes source) p ms →
        ∀ stat ∈ Stat.resources, p.Heals stat) := by
  have words := stats_start fits s minutes source
  refine ⟨?_, ?_, ?_⟩
  · intro p ms passes
    have inside := passes.stats_inRange words
    exact ⟨Player.eq_of_updateLevel_snd, fun stat resource =>
      ⟨Player.heals_iff resource inside, Player.get_updateLevel_of_above resource inside⟩⟩
  · intro r q next reached picked a won stat resource spared
    have before := reached.stats_inRange words
    have gained := Stats.get_le_get_foldl_gain before
      (not_lowers_of_attemptAt (s := s) (r := { r with source := next }) spared)
    have stats := stats_play s { r with source := next } q
    rw [if_pos won] at stats
    rw [step_of_pick picked, stats, Ne, Player.updateLevel_snd_eq_none_iff, Player.stats_grants,
      Stats.get_raise_lt_iff resource (before.foldl_gain _) gained, not_not]
  · intro within none p ms passes stat resource
    have capped := capped_of_passes (capped_start within s minutes source)
      (fun p w after passes capped beyond => by
        have refills := capped.refills beyond
        obtain ⟨q, hq, hw⟩ := exists_declared_of_passes passes refills.1
        exact none q hq w hw refills) passes
    exact (Player.heals_iff resource (passes.stats_inRange words)).2
      (.inr (Player.capped_iff.1 capped stat resource))

/-! A player who starts with more health than can be recovered, and little mana. -/

def giant : StartingPlayer :=
  { stats := { health := some 150, mana := some 40, experience := some 100 } }

def trek : Quest := { id := "trek" }

def highlands : Scenario :=
  { quests := [trek], dialogues := [], characters := [], style := .aggressive }

def giantAtStart : Run := start highlands giant.player 60 (.ofSeed 2)

theorem trek_won :
    (attemptAt highlands { giantAtStart with source := .ofSeed 2 } trek).1.success = true := by
  decide +kernel

theorem giant_recovers :
    (step highlands giantAtStart).1.player.stats.health < giantAtStart.player.stats.health ∧
    ¬ (step highlands giantAtStart).1.player.stats.mana < giantAtStart.player.stats.mana := by
  have fits : giant.player.stats.InRange := by
    intro stat
    cases stat <;> decide
  obtain ⟨_, attempts, _⟩ := levels_heal_exactly highlands fits 60 (.ofSeed 2)
  have shown := attempts giantAtStart trek (.ofSeed 2) .refl rfl trek_won
  have health := shown .health (by decide) (by simp [trek])
  have mana := shown .mana (by decide) (by simp [trek])
  constructor
  · exact health.2 ⟨by decide +kernel, by decide⟩
  · exact fun lowered => absurd (mana.1 lowered).2 (by decide)

theorem giant_weakened :
    (∃ p ms, Passes highlands giantAtStart p ms ∧ p.updateLevel.2 = some (1, 2) ∧
      p.stats.health = 150 ∧ p.updateLevel.1.stats.health = 100) ∧
    (∀ w ∈ trek.rewards, ∀ stat ∈ Stat.resources, ¬ w.Lowers stat) ∧
    (attemptAt highlands { giantAtStart with source := .ofSeed 2 } trek).1.success = true ∧
    (step highlands giantAtStart).1.player.stats.health = 100 := by
  refine ⟨⟨_, [], .between .refl, ?_, ?_, ?_⟩, by simp [trek], trek_won, by decide +kernel⟩
  · rfl
  · rfl
  · rfl

end Run

end Storyline

import Storyline.Proofs.Play.Mutation

/-!
Health and mana against the amount that they recover up to. What a run does to a player keeps both
within it, with one exception: a reward of a stat is added in full. So they stay within it just as
long as no reward brings one of them beyond. Nothing is claimed of players who start with more.
-/
namespace Storyline

def Stat.resources : List Stat := [.health, .mana]

namespace Player

structure Capped (p : Player) : Prop where
  health : p.stats.health ≤ resourceCap
  mana : p.stats.mana ≤ resourceCap

variable {p : Player}

theorem capped_iff : p.Capped ↔ ∀ stat ∈ Stat.resources, p.stats.get stat ≤ resourceCap := by
  constructor
  · intro capped stat resource
    rcases List.mem_pair.1 resource with rfl | rfl
    · exact capped.health
    · exact capped.mana
  · intro within
    exact ⟨within .health (by decide), within .mana (by decide)⟩

theorem add_le_resourceCap_iff {a b : Int} :
    Bounded.add a b ≤ resourceCap ↔ a + b ≤ resourceCap := by
  unfold Bounded.add Bounded.clamp Bounded.least Bounded.greatest resourceCap
  omega

end Player

/-- The reward adds so much to health or mana that it comes to more than they recover up to. -/
def Reward.Overfills (w : Reward) (p : Player) : Prop :=
  w.kind = .stat ∧ ∃ stat ∈ Stat.resources, Stat.ofTag? w.value = some stat ∧
    Player.resourceCap < p.stats.get stat + roundToInt w.amount

def Reward.Refills (w : Reward) : Prop :=
  w.kind = .stat ∧ (∃ stat ∈ Stat.resources, Stat.ofTag? w.value = some stat) ∧
    0 < roundToInt w.amount

namespace Player

variable {p : Player}

theorem Capped.refills (capped : p.Capped) {w : Reward} (beyond : w.Overfills p) : w.Refills := by
  obtain ⟨kind, stat, resource, named, more⟩ := beyond
  have before := capped_iff.1 capped stat resource
  exact ⟨kind, ⟨stat, resource, named⟩, by omega⟩

theorem Capped.addStat_iff (capped : p.Capped) (name : String) (delta : Int) :
    (p.addStat name delta).1.Capped ↔ ∀ stat ∈ Stat.resources, Stat.ofTag? name = some stat →
      p.stats.get stat + delta ≤ resourceCap := by
  rw [capped_iff] at capped
  by_cases nothing : delta = 0
  · have same : (p.addStat name delta).1 = p := by simp [addStat, nothing]
    rw [same, capped_iff, nothing]
    refine ⟨fun _ stat resource _ => ?_, fun _ => capped⟩
    rw [Int.add_zero]
    exact capped stat resource
  · cases named : Stat.ofTag? name with
    | none =>
      have same : (p.addStat name delta).1 = p := by simp [addStat, named]
      rw [same, capped_iff]
      exact ⟨fun _ _ _ known => (nomatch known), fun _ => capped⟩
    | some target =>
      have added : (p.addStat name delta).1.stats =
          p.stats.set target (Bounded.add (p.stats.get target) delta) := by
        simp [addStat, nothing, named]
      simp only [capped_iff, added, Stats.get_set, Option.some.injEq]
      constructor
      · rintro after _ resource rfl
        have fits := after target resource
        rwa [if_pos rfl, add_le_resourceCap_iff] at fits
      · intro fits stat resource
        split
        · rename_i here
          subst here
          exact add_le_resourceCap_iff.2 (fits stat resource rfl)
        · exact capped stat resource

theorem Capped.updateLevel (capped : p.Capped) : p.updateLevel.1.Capped := by
  unfold Player.updateLevel
  dsimp only
  split
  · exact capped
  · exact ⟨Int.min_le_right .., Int.min_le_right ..⟩

theorem Capped.applyReward_iff (capped : p.Capped) (w : Reward) :
    (p.applyReward w).1.Capped ↔ ¬ w.Overfills p := by
  have kept {p' : Player} (same : p'.stats = p.stats) (other : w.kind ≠ .stat) :
      p'.Capped ↔ ¬ w.Overfills p :=
    ⟨fun _ beyond => other beyond.1, fun _ => ⟨same ▸ capped.health, same ▸ capped.mana⟩⟩
  have apart {name : String} {stat : Stat} (named : Stat.ofTag? name = some stat)
      (spared : stat ∉ Stat.resources) (other : w.kind ≠ .stat) :
      (p.addStat name (roundToInt w.amount)).1.Capped ↔ ¬ w.Overfills p := by
    refine ⟨fun _ beyond => other beyond.1, fun _ => (capped.addStat_iff ..).2 ?_⟩
    rintro stat' resource known
    rw [named] at known
    cases known
    exact absurd resource spared
  have experience : Stat.ofTag? "experience" = some .experience := rfl
  have gold : Stat.ofTag? "gold" = some .gold := rfl
  unfold Player.applyReward
  cases kind : w.kind with
  | experience => exact apart experience (by decide) (by simp [kind])
  | gold => exact apart gold (by decide) (by simp [kind])
  | stat =>
    dsimp only
    rw [capped.addStat_iff, Reward.Overfills]
    simp [kind]
  | item =>
    dsimp only
    split
    · refine kept ?_ (by simp [kind])
      unfold loseItem
      split <;> rfl
    · refine kept ?_ (by simp [kind])
      unfold gainItem
      split <;> rfl
  | flag => exact kept rfl (by simp [kind])
  | reputation => exact kept rfl (by simp [kind])

/-- Of all that can be done to a player only a reward leads beyond the cap. -/
theorem Capped.mutate_iff (capped : p.Capped) (m : Mutation) :
    (p.mutate m).Capped ↔ ∀ w, m = .grant w → ¬ w.Overfills p := by
  have kept (still : (p.mutate m).Capped) (other : ∀ w, m ≠ .grant w) :
      (p.mutate m).Capped ↔ ∀ w, m = .grant w → ¬ w.Overfills p :=
    ⟨fun _ w same => absurd same (other w), fun _ => still⟩
  cases m with
  | grant reward =>
    rw [mutate, capped.applyReward_iff]
    exact ⟨fun fits w same => by cases same; exact fits, fun fits => fits reward rfl⟩
  | raiseLevel => exact kept capped.updateLevel nofun
  | _ => exact kept ⟨capped.health, capped.mana⟩ nofun

theorem Capped.perform (capped : p.Capped) {ms : List Mutation}
    (fits : ∀ before w after, ms = before ++ .grant w :: after → (p.perform before).Capped →
      ¬ w.Overfills (p.perform before)) : (p.perform ms).Capped := by
  induction ms generalizing p with
  | nil => exact capped
  | cons m ms ih =>
    refine ih ((capped.mutate_iff m).2 ?_) ?_
    · rintro w rfl
      exact fits [] w ms rfl capped
    · rintro before w after rfl
      exact fits (m :: before) w after rfl

end Player

namespace Quest

variable {q : Quest} {w : Reward}

theorem mem_allRewards_of_attempt {p : Player} {source : Random.Source}
    (hw : w ∈ (q.attempt p source).1.rewards) : w ∈ q.allRewards := by
  simp only [attempt] at hw
  split at hw
  · exact hw
  · cases hw

theorem mem_rewards_of_stat (hw : w ∈ q.allRewards) (kind : w.kind = .stat) : w ∈ q.rewards := by
  rcases List.mem_append.1 hw with hw | hw
  · split at hw
    · simp only [usualRewards, List.mem_pair] at hw
      rcases hw with rfl | rfl <;> cases kind
    · exact hw
  · unfold typeRewards at hw
    split at hw
    · cases List.mem_singleton.1 hw
      cases kind
    · rcases List.mem_pair.1 hw with rfl | rfl <;> cases kind
    · cases List.mem_singleton.1 hw
      cases kind
    · cases hw

end Quest

namespace Run

open Player (Mutation)

variable {s : Scenario} {first r : Run} {q : Quest} {w : Reward}

theorem mem_allRewards_of_grant (granted : .grant w ∈ mutations s r q) : w ∈ q.allRewards := by
  simp only [mutations, List.mem_append] at granted
  rcases granted with ((arrival | settlement) | judgment) | closing
  · rcases part_of_mem_arrival arrival with other | other | other <;> cases other
  · simp only [Run.settlement, List.mem_cons, reduceCtorEq, false_or] at settlement
    split at settlement
    · simp only [List.mem_append, List.mem_cons, List.mem_map, reduceCtorEq, and_false,
        exists_const, or_false] at settlement
      obtain ⟨_, hw, same⟩ := settlement
      cases same
      exact Quest.mem_allRewards_of_attempt hw
    · cases settlement
  · cases part_of_mem_judgment judgment
  · simp at closing

/-- A player at some moment of a run, with what the attempt that is under way has yet to do. -/
inductive Passes (s : Scenario) (first : Run) : Player → List Mutation → Prop where
  | between {r : Run} : Reaches s first r → Passes s first r.player []
  | within {r : Run} {q : Quest} {source : Random.Source} {before after : List Mutation} :
      Reaches s first r → pick s r = (some q, source) →
      mutations s { r with source } q = before ++ after →
      Passes s first (r.player.perform before) after

theorem Passes.next {p : Player} {m : Mutation} {after : List Mutation}
    (h : Passes s first p (m :: after)) : Passes s first (p.mutate m) after := by
  generalize rest : m :: after = ms at h
  cases h with
  | between => cases rest
  | @within r q source before _ reached picked parts =>
    subst rest
    have onward : (r.player.perform before).mutate m = r.player.perform (before ++ [m]) := by
      rw [Player.perform_append]
      rfl
    rw [onward]
    exact .within reached picked (by rw [parts, List.append_assoc, List.singleton_append])

theorem exists_declared_of_passes {p : Player} {after : List Mutation}
    (h : Passes s first p (.grant w :: after)) (kind : w.kind = .stat) :
    ∃ q ∈ s.quests, w ∈ q.rewards := by
  generalize rest : .grant w :: after = ms at h
  cases h with
  | between => cases rest
  | @within r q source before _ reached picked parts =>
    subst rest
    have granted : .grant w ∈ mutations s { r with source } q := by simp [parts]
    exact ⟨q, mem_quests_of_pick picked,
      Quest.mem_rewards_of_stat (mem_allRewards_of_grant granted) kind⟩

/-- Between steps by induction on the steps, and from there to each moment within the next. -/
theorem capped_of_passes (within : first.player.Capped)
    (fits : ∀ p w after, Passes s first p (.grant w :: after) → p.Capped → ¬ w.Overfills p)
    {p : Player} {ms : List Mutation} (h : Passes s first p ms) : p.Capped := by
  have settled : ∀ r, Reaches s first r → r.player.Capped := by
    intro r reached
    refine (reached.preserves (P := fun r => Reaches s first r ∧ r.player.Capped) ?_
      ⟨.refl, within⟩).2
    intro r r' next ⟨reached, capped⟩
    refine ⟨reached.tail next, ?_⟩
    obtain ⟨q, _, _, source, picked, rfl⟩ := exists_picked next
    rw [player_play]
    refine capped.perform fun before w after parts here => ?_
    exact fits _ w after (.within reached picked parts) here
  cases h with
  | between reached => exact settled _ reached
  | @within r q source before _ reached picked parts =>
    refine (settled r reached).perform fun earlier w later these here => ?_
    rw [these, List.append_assoc, List.cons_append] at parts
    exact fits _ w _ (.within reached picked parts) here

theorem capped_start {o : StartingPlayer} (within : o.player.Capped) (s : Scenario)
    (minutes : Nat) (source : Random.Source) : (start s o.player minutes source).player.Capped := by
  change (enroll s.quests o.player).Capped
  rw [enroll_eq]
  refine within.perform fun before w after parts _ => ?_
  have granted : .grant w ∈ enrollment s.quests := by simp [parts]
  simp [enrollment] at granted

/-- Health and mana of a player who starts with no more than the cap stay within it at all times
just as long as no reward that is granted overfills one of them; and no reward does where the quests
declare none that adds to them. -/
theorem capped_exactly (s : Scenario) {o : StartingPlayer} (within : o.player.Capped)
    (minutes : Nat) (source : Random.Source) :
    ((∀ p ms, Passes s (start s o.player minutes source) p ms → p.Capped) ↔
      ∀ p w after, Passes s (start s o.player minutes source) p (.grant w :: after) →
        ¬ w.Overfills p) ∧
    ((∀ q ∈ s.quests, ∀ w ∈ q.rewards, ¬ w.Refills) →
      ∀ p ms, Passes s (start s o.player minutes source) p ms → p.Capped) := by
  have first := capped_start within s minutes source
  refine ⟨⟨?_, ?_⟩, ?_⟩
  · intro always p w after passes
    exact ((always p _ passes).mutate_iff (.grant w)).1 (always _ after passes.next) w rfl
  · intro fits p ms passes
    exact capped_of_passes first (fun p w after passes _ => fits p w after passes) passes
  · intro none p ms passes
    refine capped_of_passes first (fun p w after passes capped beyond => ?_) passes
    have refills := capped.refills beyond
    obtain ⟨q, hq, hw⟩ := exists_declared_of_passes passes refills.1
    exact none q hq w hw refills

/-! A quest whose reward is more than there is room for. -/

def feast : Quest := { id := "feast", rewards := [{ kind := .stat, value := "hp", amount := 10.0 }] }

def banquet : Scenario :=
  { quests := [feast], dialogues := [], characters := [], style := .aggressive }

def banquetAtStart : Run := start banquet ({} : StartingPlayer).player 60 (.ofSeed 2)

theorem health_banquet : (step banquet banquetAtStart).1.player.stats.health = 110 := by
  decide +kernel

theorem not_capped_banquet : ¬ (step banquet banquetAtStart).1.player.Capped := by
  intro capped
  have health := capped.health
  rw [health_banquet] at health
  exact absurd health (by decide)

theorem banquet_overfills : ∃ p w after,
    Passes banquet banquetAtStart p (.grant w :: after) ∧ w.Overfills p := by
  by_contra none
  have within : ({} : StartingPlayer).player.Capped := ⟨by decide, by decide⟩
  obtain ⟨exactly, _⟩ := capped_exactly banquet within 60 (.ofSeed 2)
  refine not_capped_banquet (exactly.2 ?_ _ [] (.between (.single rfl)))
  exact fun p w after passes beyond => none ⟨p, w, after, passes, beyond⟩

theorem banquet_exceeds : ({} : StartingPlayer).player.Capped ∧
    ∃ r, Reaches banquet banquetAtStart r ∧ Player.resourceCap < r.player.stats.health := by
  refine ⟨⟨by decide, by decide⟩, _, .single rfl, ?_⟩
  rw [health_banquet]
  decide

end Run

end Storyline

import Storyline.Proofs.Play.Failure
import Storyline.Proofs.Play.Range
import Storyline.Proofs.Play.Resource

/-!
What an attempt does to the stats. After a success each reward adds to the stat that it is for, and
the level is brought up to what the experience earns; nothing else in a run touches a stat. Rewards
that a quest does not declare itself take from no stat.
-/
namespace Storyline

def Reward.target? (w : Reward) : Option Stat :=
  match w.kind with
  | .experience => some .experience
  | .gold => some .gold
  | .stat => Stat.ofTag? w.value
  | .item | .flag | .reputation => none

def Reward.Lowers (w : Reward) (stat : Stat) : Prop :=
  w.target? = some stat ∧ roundToInt w.amount < 0

instance (w : Reward) (stat : Stat) : Decidable (w.Lowers stat) :=
  inferInstanceAs (Decidable (_ ∧ _))

namespace Stats

def gain (s : Stats) (w : Reward) : Stats :=
  match w.target? with
  | some stat =>
    if roundToInt w.amount = 0 then s
    else s.set stat (Bounded.add (s.get stat) (roundToInt w.amount))
  | none => s

/-- The level that the experience earns: one for each full hundred and one more, but the first at
least. -/
def earnedLevel (s : Stats) : Int := max 1 (s.experience / Player.experiencePerLevel + 1)

def raise (s : Stats) : Stats :=
  if s.level < s.earnedLevel then
    { s with
      level := s.earnedLevel
      health := min (Bounded.add s.health 10) Player.resourceCap
      mana := min (Bounded.add s.mana 10) Player.resourceCap }
  else s

variable {s : Stats} {stat : Stat}

theorem levelFor_experience (s : Stats) : Player.levelFor s.experience = s.earnedLevel := by
  unfold Player.levelFor earnedLevel Player.experiencePerLevel
  rcases Int.le_total 0 s.experience with nonneg | negative
  · rw [Int.tdiv_eq_ediv_of_nonneg nonneg]
  · -- either way of rounding leads to the first level
    have floor : s.experience / 100 ≤ 0 := by omega
    have cut : s.experience.tdiv 100 ≤ 0 := by
      rw [Int.tdiv_eq_ediv]
      split
      · omega
      · have sign : Int.sign 100 = 1 := rfl
        omega
    rw [Int.max_eq_left (by omega), Int.max_eq_left (by omega)]

theorem earnedLevel_mono {s' : Stats} (more : s.experience ≤ s'.experience) :
    s.earnedLevel ≤ s'.earnedLevel := by
  unfold earnedLevel Player.experiencePerLevel
  omega

theorem get_gain_of_ne {w : Reward} (other : w.target? ≠ some stat) :
    (s.gain w).get stat = s.get stat := by
  unfold gain
  cases target : w.target? with
  | none => rfl
  | some target' =>
    have apart : stat ≠ target' := fun same => other (same ▸ target)
    dsimp only
    split
    · rfl
    · rw [get_set, if_neg apart]

theorem get_le_get_gain {w : Reward} (fits : s.InRange) (spares : ¬ w.Lowers stat) :
    s.get stat ≤ (s.gain w).get stat := by
  by_cases target : w.target? = some stat
  · have adds : 0 ≤ roundToInt w.amount := Int.not_lt.1 fun takes => spares ⟨target, takes⟩
    have room := (fits stat).2
    simp only [gain, target]
    split
    · exact Int.le_refl _
    · rw [get_set, if_pos rfl]
      unfold Bounded.add Bounded.clamp
      omega
  · exact Int.le_of_eq (get_gain_of_ne target).symm

theorem InRange.gain (fits : s.InRange) (w : Reward) : (s.gain w).InRange := by
  unfold Stats.gain
  split
  · split
    · exact fits
    · exact fits.set _ (Bounded.clamp_inRange _)
  · exact fits

theorem get_foldl_gain_of_ne {ws : List Reward} (others : ∀ w ∈ ws, w.target? ≠ some stat) :
    (ws.foldl gain s).get stat = s.get stat := by
  induction ws generalizing s with
  | nil => rfl
  | cons w ws ih =>
    obtain ⟨other, others⟩ := List.forall_mem_cons.1 others
    rw [List.foldl_cons, ih others, get_gain_of_ne other]

theorem get_le_get_foldl_gain {ws : List Reward} (fits : s.InRange)
    (spare : ∀ w ∈ ws, ¬ w.Lowers stat) : s.get stat ≤ (ws.foldl gain s).get stat := by
  induction ws generalizing s with
  | nil => exact Int.le_refl _
  | cons w ws ih =>
    obtain ⟨spares, spare⟩ := List.forall_mem_cons.1 spare
    exact (get_le_get_gain fits spares).trans (ih (fits.gain w) spare)

theorem InRange.foldl_gain (fits : s.InRange) (ws : List Reward) :
    (ws.foldl Stats.gain s).InRange := by
  induction ws generalizing s with
  | nil => exact fits
  | cons w ws ih => exact ih (fits.gain w)

@[simp] theorem earnedLevel_raise (s : Stats) : s.raise.earnedLevel = s.earnedLevel := by
  unfold raise
  split <;> rfl

theorem level_raise (s : Stats) : s.raise.level = max s.level s.earnedLevel := by
  unfold raise
  split
  · rename_i short
    exact (Int.max_eq_right (Int.le_of_lt short)).symm
  · rename_i enough
    exact (Int.max_eq_left (Int.not_lt.1 enough)).symm

end Stats

namespace Player

variable (p : Player)

theorem stats_addStat_eq (name : String) (delta : Int) : (p.addStat name delta).1.stats =
    match Stat.ofTag? name with
    | some stat =>
      if delta = 0 then p.stats else p.stats.set stat (Bounded.add (p.stats.get stat) delta)
    | none => p.stats := by
  unfold addStat
  by_cases nothing : delta = 0
  · simp only [nothing, if_true]
    cases Stat.ofTag? name <;> rfl
  · simp only [nothing, if_false]
    cases Stat.ofTag? name <;> rfl

theorem stats_applyReward_eq (w : Reward) : (p.applyReward w).1.stats = p.stats.gain w := by
  have experience : Stat.ofTag? "experience" = some .experience := rfl
  have gold : Stat.ofTag? "gold" = some .gold := rfl
  unfold applyReward Stats.gain Reward.target?
  cases w.kind with
  | experience =>
    dsimp only
    rw [stats_addStat_eq, experience]
  | gold =>
    dsimp only
    rw [stats_addStat_eq, gold]
  | stat =>
    dsimp only
    rw [stats_addStat_eq]
  | item =>
    dsimp only
    split
    · unfold loseItem
      split <;> rfl
    · unfold gainItem
      split <;> rfl
  | flag | reputation => rfl

theorem stats_grants (ws : List Reward) :
    (p.perform (ws.map .grant)).stats = ws.foldl Stats.gain p.stats := by
  unfold perform
  induction ws generalizing p with
  | nil => rfl
  | cons w ws ih =>
    rw [List.map_cons, List.foldl_cons, ih, List.foldl_cons, mutate, stats_applyReward_eq]

theorem stats_credits (credits : List (String × Int)) :
    (p.perform (credits.map fun credit => .credit credit.1 credit.2)).stats = p.stats := by
  unfold perform
  induction credits generalizing p with
  | nil => rfl
  | cons credit credits ih => exact ih (p.mutate (.credit credit.1 credit.2))

theorem updateLevel_cases :
    p.stats.earnedLevel ≤ p.stats.level ∧ p.updateLevel = (p, none) ∨
    p.stats.level < p.stats.earnedLevel ∧ p.updateLevel =
      ({ p with stats := p.stats.raise }, some (p.stats.level, p.stats.earnedLevel)) := by
  unfold updateLevel Stats.raise
  rw [p.stats.levelFor_experience]
  by_cases enough : p.stats.earnedLevel ≤ p.stats.level
  · exact .inl ⟨enough, if_pos enough⟩
  · have short : p.stats.level < p.stats.earnedLevel := Int.not_le.1 enough
    exact .inr ⟨short, by simp only [if_neg enough, if_pos short]⟩

theorem stats_updateLevel_eq : p.updateLevel.1.stats = p.stats.raise := by
  rcases p.updateLevel_cases with ⟨enough, same⟩ | ⟨_, raised⟩
  · rw [same, Stats.raise, if_neg (by omega)]
  · rw [raised]

theorem updateLevel_snd : p.updateLevel.2 =
    if p.stats.level < p.stats.earnedLevel then some (p.stats.level, p.stats.earnedLevel)
    else none := by
  rcases p.updateLevel_cases with ⟨enough, same⟩ | ⟨short, raised⟩
  · rw [same, if_neg (by omega)]
  · rw [raised, if_pos short]

end Player

namespace Quest

variable {q : Quest} {w : Reward}

theorem kind_of_target {stat : Stat} (target : w.target? = some stat)
    (other : stat ≠ .experience ∧ stat ≠ .gold) : w.kind = .stat := by
  unfold Reward.target? at target
  cases kind : w.kind <;> simp_all

-- The usual rewards and those of a type take nothing away.
theorem mem_rewards_of_lowers {stat : Stat} (hw : w ∈ q.allRewards) (takes : w.Lowers stat) :
    w ∈ q.rewards := by
  have least : ∀ d : Difficulty,
      0 ≤ roundToInt (Float.ofNat (experiencePerDifficulty * d.multiplier)) ∧
      0 ≤ roundToInt (Float.ofNat (goldPerDifficulty * d.multiplier)) := by
    intro d
    cases d <;> decide +kernel
  obtain ⟨target, amount⟩ := takes
  rcases List.mem_append.1 hw with hw | hw
  · split at hw
    · simp only [usualRewards, List.mem_pair] at hw
      rcases hw with rfl | rfl
      · exact absurd (least q.difficulty).1 (Int.not_le.2 amount)
      · exact absurd (least q.difficulty).2 (Int.not_le.2 amount)
    · exact hw
  · unfold typeRewards at hw
    split at hw
    · cases List.mem_singleton.1 hw
      cases target
    · rcases List.mem_pair.1 hw with rfl | rfl <;> cases target
    · cases List.mem_singleton.1 hw
      cases target
    · cases hw

end Quest

namespace Run

open Player (Mutation)

variable {s : Scenario} {r : Run} {q : Quest}

theorem stats_perform_of_part {p : Player} {ms : List Mutation}
    (others : ∀ m ∈ ms, m.part ≠ .means) : (p.perform ms).stats = p.stats :=
  (Player.sameIn_perform others).1

theorem stats_enroll (quests : List Quest) (p : Player) : (enroll quests p).stats = p.stats := by
  rw [enroll_eq]
  apply stats_perform_of_part
  intro m hm
  obtain ⟨q, _, rfl⟩ := List.mem_map.1 hm
  nofun

theorem stats_arrive (s : Scenario) (r : Run) (q : Quest) :
    (arrive s r q).player.stats = r.player.stats := by
  rw [player_arrive]
  apply stats_perform_of_part
  intro m hm
  rcases part_of_mem_arrival hm with part | part | part <;> simp [part]

theorem stats_settlement (s : Scenario) (p : Player) (q : Quest) (a : Attempt) :
    (p.perform (settlement s q a)).stats =
      if a.success then (a.rewards.foldl Stats.gain p.stats).raise else p.stats := by
  unfold settlement
  split
  · rw [← List.singleton_append, ← List.singleton_append (x := Mutation.raiseLevel),
      Player.perform_append, Player.perform_append, Player.perform_append, Player.stats_credits]
    change ((p.setStatus q.id _).perform _).updateLevel.1.stats = _
    rw [Player.stats_updateLevel_eq, Player.stats_grants]
    rfl
  · rfl

/-- An attempt that succeeds adds its rewards to the stats and then brings up the level. One that
fails leaves the stats as they were. -/
theorem stats_play (s : Scenario) (r : Run) (q : Quest) : (play s r q).player.stats =
    if (attemptAt s r q).1.success then
      ((attemptAt s r q).1.rewards.foldl Stats.gain r.player.stats).raise
    else r.player.stats := by
  have closed (p : Player) : (p.perform [.turnTo none, .listenTo none]).stats = p.stats := rfl
  have judged (p : Player) :
      (p.perform (judgment q (attemptAt s r q).1)).stats = p.stats :=
    stats_perform_of_part fun m hm => by simp [part_of_mem_judgment hm]
  rw [player_play, mutations, Player.perform_append, Player.perform_append, closed, judged,
    Player.perform_append, stats_settlement, ← player_arrive, stats_arrive]

theorem mem_allRewards_of_attemptAt {w : Reward} (hw : w ∈ (attemptAt s r q).1.rewards) :
    w ∈ q.allRewards :=
  Quest.mem_allRewards_of_attempt hw

/-- The rewards that an attempt grants take from a stat only where the quest declares it. -/
theorem not_lowers_of_attemptAt {stat : Stat} (declared : ∀ w ∈ q.rewards, ¬ w.Lowers stat) :
    ∀ w ∈ (attemptAt s r q).1.rewards, ¬ w.Lowers stat := fun w hw takes =>
  declared w (Quest.mem_rewards_of_lowers (mem_allRewards_of_attemptAt hw) takes) takes

end Run

end Storyline

import Storyline.Proofs.Play.Gain

/-!
The level of a player against the experience. Each success brings the level up to what the
experience earns, and the log tells of a level reached just when that changes it. From the first
success on the level is never below what is earned. It is above only where a player starts above, a
reward adds to the level itself, or a reward takes experience away.
-/
namespace Storyline

open Player (Mutation)

def Event.raise? (e : Event) : Option (Int × Int) :=
  match e.kind, e.data.field? "from", e.data.field? "to" with
  | .statChange, some (.integer old), some (.integer new) => some (old, new)
  | _, _, _ => none

theorem Event.raise?_of_kind {e : Event} (other : e.kind ≠ .statChange) : e.raise? = none := by
  unfold raise?
  split
  next kind _ _ => exact absurd kind other
  next => rfl

namespace Player

variable {p p' : Player}

theorem updateLevel_snd_congr (same : p.stats = p'.stats) :
    p.updateLevel.2 = p'.updateLevel.2 := by
  rw [updateLevel_snd, updateLevel_snd, same]

theorem updateLevel_updateLevel (p : Player) :
    p.updateLevel.1.updateLevel = (p.updateLevel.1, none) := by
  rcases p.updateLevel.1.updateLevel_cases with ⟨_, same⟩ | ⟨short, _⟩
  · exact same
  · rw [stats_updateLevel_eq, Stats.earnedLevel_raise, Stats.level_raise] at short
    omega

end Player

namespace Run

variable {s : Scenario} {first r r' r'' : Run} {q : Quest} {next : Random.Source}
  {rises rises' : List (Int × Int)}

/-- The events between two runs tell of certain levels reached, in order, and of no others. -/
def Tells (r : Run) (rises : List (Int × Int)) (r' : Run) : Prop :=
  ∃ es : List Event, r'.log = es.foldl EventLog.push r.log ∧
    es.filterMap Event.raise? = rises ∧
    ∀ e ∈ es, ∀ old new, e.raise? = some (old, new) →
      e.description = "reached level " ++ toString new ∧
      e.data.field? "stat" = some (.string "level")

theorem Tells.trans (before : Tells r rises r') (after : Tells r' rises' r'') :
    Tells r (rises ++ rises') r'' := by
  obtain ⟨es, log, told, named⟩ := before
  obtain ⟨es', log', told', named'⟩ := after
  refine ⟨es ++ es', ?_, ?_, List.forall_mem_append.2 ⟨named, named'⟩⟩
  · rw [log', log, List.foldl_append]
  · rw [List.filterMap_append, told, told']

theorem tells_nothing {es : List Event} (log : r'.log = es.foldl EventLog.push r.log)
    (silent : ∀ e ∈ es, e.raise? = none) : Tells r [] r' := by
  refine ⟨es, log, List.filterMap_eq_nil_iff.2 silent, ?_⟩
  intro e he old new told
  rw [silent e he] at told
  cases told

theorem tells_same (log : r'.log = r.log) : Tells r [] r' :=
  tells_nothing (show r'.log = [].foldl EventLog.push r.log from log) (by simp)

theorem tells_push {e : Event} (log : r'.log = r.log.push e) (silent : e.raise? = none) :
    Tells r [] r' := by
  apply tells_nothing (show r'.log = [e].foldl EventLog.push r.log from log)
  intro e' he
  cases List.mem_singleton.1 he
  exact silent

theorem tells_foldl {α : Type} {f : Run → α → Run} (each : ∀ r a, Tells r [] (f r a)) (l : List α)
    (r : Run) : Tells r [] (l.foldl f r) := by
  induction l generalizing r with
  | nil => exact tells_same rfl
  | cons a l ih => exact (each r a).trans (ih (f r a))

theorem tells_record (r : Run) (time : Nat) (changed : Player × Option Change) :
    Tells r [] (r.record time changed) := by
  obtain ⟨p, change⟩ := changed
  cases change with
  | none => exact tells_same rfl
  | some change =>
    have silent : (changeEvent p time change).raise? = none := by cases change <;> rfl
    exact tells_push rfl silent

theorem tells_levelUp (r : Run) (time : Nat) :
    Tells r r.player.updateLevel.2.toList (r.levelUp time) := by
  unfold levelUp
  rcases r.player.updateLevel_cases with ⟨_, same⟩ | ⟨_, raised⟩
  · rw [same]
    exact tells_same rfl
  · rw [raised]
    refine ⟨[_], rfl, rfl, ?_⟩
    intro e he old new told
    cases List.mem_singleton.1 he
    cases told
    exact ⟨rfl, rfl⟩

theorem tells_arrive (s : Scenario) (r : Run) (q : Quest) : Tells r [] (arrive s r q) := by
  obtain ⟨begun, moves, lines, arrived, start, travels, spoken, _⟩ := Writes.arrive s r q
  have said := Event.forall_dialogue spoken
  apply tells_nothing arrived.log
  intro e he
  apply Event.raise?_of_kind
  simp only [List.mem_cons, List.mem_append] at he
  rcases he with rfl | moved | spoke
  · simp [start.1]
  · simp [travels.2 e moved]
  · simp [said e spoke]

theorem tells_judge (r : Run) (q : Quest) (a : Attempt) (time : Nat) :
    Tells r [] (r.judge q a time) := by
  obtain ⟨es, judged, _, turns⟩ := Writes.judge r q a time
  exact tells_nothing judged.log fun e he => Event.raise?_of_kind (by simp [(turns e he).2])

theorem tells_settle (s : Scenario) (r : Run) (q : Quest) (a : Attempt) (time : Nat) :
    Tells r
      (if a.success then (r.player.perform (a.rewards.map .grant)).updateLevel.2.toList else [])
      (settle s r q a time) := by
  unfold settle
  split
  · have closed : Tells r [] (emit { r with
      completed := r.completed + 1
      player := r.player.setStatus q.id .completed } (endEvent q a time)) := tells_push rfl rfl
    have rewarded := closed.trans (tells_foldl (f := reward time)
      (fun r w => tells_record r time (r.player.applyReward w)) a.rewards _)
    have raised := rewarded.trans (tells_levelUp _ time)
    have credited := raised.trans (tells_foldl (f := creditFaction time)
      (fun r credit => tells_record r time _) (q.reputationDeltas s.characters).entries _)
    -- these stats do not depend on how the quest stands
    have left : (a.rewards.foldl (reward time) (emit { r with
        completed := r.completed + 1
        player := r.player.setStatus q.id .completed } (endEvent q a time))).player.updateLevel.2 =
        (r.player.perform (a.rewards.map .grant)).updateLevel.2 := by
      apply Player.updateLevel_snd_congr
      rw [player_rewards, Player.stats_grants, Player.stats_grants]
      rfl
    rw [← left, complete]
    simpa only [List.nil_append, List.append_nil] using credited
  · exact tells_push rfl rfl

-- The run at the end is a variable here, so that nothing unfolds the draws of the attempt.
theorem tells_of_eq {last there : Run} {a : Attempt} {source : Random.Source} {time : Nat}
    (played : last = ((settle s { there with source } q a time).judge q a time).close a)
    (arrived : Tells r [] there) (stats : there.player.stats = r.player.stats) : Tells r
      (if a.success then (r.player.perform (a.rewards.map .grant)).updateLevel.2.toList else [])
      last := by
  have settled := tells_settle s { there with source } q a time
  have judged := settled.trans (tells_judge _ q a time)
  have left : (there.player.perform (a.rewards.map .grant)).updateLevel.2 =
      (r.player.perform (a.rewards.map .grant)).updateLevel.2 := by
    apply Player.updateLevel_snd_congr
    rw [Player.stats_grants, Player.stats_grants, stats]
  simp only [left, List.append_nil] at judged
  rw [played]
  exact arrived.trans judged

theorem tells_play (s : Scenario) (r : Run) (q : Quest) : Tells r
    (if (attemptAt s r q).1.success then
      (r.player.perform ((attemptAt s r q).1.rewards.map .grant)).updateLevel.2.toList else [])
    (play s r q) :=
  tells_of_eq (play_eq s r q) (tells_arrive s r q) (stats_arrive s r q)

/-! From step to step. -/

theorem earnedLevel_le_step (advance : step? s r = some r')
    (enough : 0 < r.completed → r.player.stats.earnedLevel ≤ r.player.stats.level)
    (some_won : 0 < r'.completed) : r'.player.stats.earnedLevel ≤ r'.player.stats.level := by
  obtain ⟨q, _, _, source, _, rfl⟩ := exists_picked advance
  have counted := (play_ends s { r with source } q).completed
  rw [stats_play]
  split
  · rw [Stats.earnedLevel_raise, Stats.level_raise]
    exact Int.le_max_right ..
  · rename_i lost
    rw [if_neg lost, Nat.add_zero] at counted
    rw [counted] at some_won
    exact enough some_won

theorem level_eq_step
    (declared : ∀ q ∈ s.quests, ∀ w ∈ q.rewards, w.target? ≠ some .level ∧ ¬ w.Lowers .experience)
    (advance : step? s r = some r') (fits : r.player.stats.InRange)
    (even : r.player.stats.level = r.player.stats.earnedLevel) :
    r'.player.stats.level = r'.player.stats.earnedLevel := by
  obtain ⟨q, hq, _, source, _, rfl⟩ := exists_picked advance
  rw [stats_play]
  split
  · have apart : ∀ w ∈ (attemptAt s { r with source } q).1.rewards, w.target? ≠ some .level := by
      intro w hw target
      have kind := Quest.kind_of_target target (by decide)
      have own := Quest.mem_rewards_of_stat (mem_allRewards_of_attemptAt hw) kind
      exact (declared q hq w own).1 target
    have kept := Stats.get_foldl_gain_of_ne (s := r.player.stats) apart
    have gained := Stats.get_le_get_foldl_gain fits
      (not_lowers_of_attemptAt (s := s) (r := { r with source }) fun w hw => (declared q hq w hw).2)
    have more := Stats.earnedLevel_mono gained
    rw [Stats.earnedLevel_raise, Stats.level_raise]
    refine Int.max_eq_right (Int.le_trans (Int.le_of_eq ?_) more)
    exact kept.trans even
  · exact even

/-- The level tracks the experience. In every run that steps lead to it is at least what the
experience earns as soon as one quest was completed. It is exactly that all the time if it is so for
the starting player and no quest declares a reward that is for the level or takes experience away.
The log of an attempt tells of a level reached just when the attempt succeeds and the experience
earns more than the level that the rewards left; it tells of that level and of the one that is
earned. To bring up the level once more changes nothing. -/
theorem level_tracks_experience (s : Scenario) (o : StartingPlayer) (minutes : Nat)
    (source : Random.Source) {r : Run} (reached : Reaches s (start s o.player minutes source) r) :
    (0 < r.completed → r.player.stats.earnedLevel ≤ r.player.stats.level) ∧
    (o.player.stats.InRange → o.player.stats.level = o.player.stats.earnedLevel →
      (∀ q ∈ s.quests, ∀ w ∈ q.rewards, w.target? ≠ some .level ∧ ¬ w.Lowers .experience) →
      r.player.stats.level = r.player.stats.earnedLevel) ∧
    (∀ q next, pick s r = (some q, next) →
      let a := (attemptAt s { r with source := next } q).1
      let left := (r.player.perform (a.rewards.map .grant)).stats
      Tells r
        (if a.success = true ∧ left.level < left.earnedLevel then [(left.level, left.earnedLevel)]
        else []) (step s r).1 ∧
      (a.success = true → (step s r).1.player.stats.level = max left.level left.earnedLevel)) ∧
    ∀ p : Player, p.updateLevel.1.updateLevel = (p.updateLevel.1, none) := by
  refine ⟨?_, fun fits even declared => ?_, fun q next picked => ?_,
    Player.updateLevel_updateLevel⟩
  · refine reached.preserves (P := fun m => 0 < m.completed →
      m.player.stats.earnedLevel ≤ m.player.stats.level) (fun _ _ => earnedLevel_le_step) ?_
    exact fun some_won => absurd some_won (Nat.lt_irrefl 0)
  · have enrolled : (start s o.player minutes source).player.stats = o.player.stats :=
      stats_enroll s.quests o.player
    refine (reached.preserves (P := fun m => m.player.stats.InRange ∧
      m.player.stats.level = m.player.stats.earnedLevel) ?_ (enrolled ▸ ⟨fits, even⟩)).2
    intro m m' advance ⟨fits, even⟩
    have onward : Reaches s m m' := Reaches.tail .refl advance
    exact ⟨onward.stats_inRange fits, level_eq_step declared advance fits even⟩
  · rw [step_of_pick picked]
    have told := tells_play s { r with source := next } q
    have stats := stats_play s { r with source := next } q
    dsimp only at told stats ⊢
    refine ⟨?_, fun won => ?_⟩
    · rw [Player.updateLevel_snd, apply_ite Option.toList] at told
      rw [ite_and]
      exact told
    · rw [if_pos won] at stats
      rw [stats, Player.stats_grants, Stats.level_raise]

/-! A reward of experience that is worth two levels at once. -/

def errand : Quest :=
  { id := "errand", rewards := [{ kind := .stat, value := " XP", amount := 250.0 }] }

def outing : Scenario :=
  { quests := [errand], dialogues := [], characters := [], style := .aggressive }

def outingAtStart : Run := start outing ({} : StartingPlayer).player 60 (.ofSeed 2)

theorem errand_levels : 0 < (step outing outingAtStart).1.completed ∧
    (step outing outingAtStart).1.player.stats.level =
      (step outing outingAtStart).1.player.stats.earnedLevel ∧
    (step outing outingAtStart).1.player.stats.level = 3 ∧
    Tells outingAtStart [(1, 3)] (step outing outingAtStart).1 := by
  have fits : ({} : StartingPlayer).player.stats.InRange := by
    intro stat
    cases stat <;> decide
  have declared : ∀ q ∈ outing.quests, ∀ w ∈ q.rewards,
      w.target? ≠ some .level ∧ ¬ w.Lowers .experience := by
    decide +kernel
  have won :
      (attemptAt outing { outingAtStart with source := .ofSeed 2 } errand).1.success = true := by
    decide +kernel
  obtain ⟨_, even, _, _⟩ := level_tracks_experience outing {} 60 (.ofSeed 2)
    (.single rfl : Reaches outing outingAtStart (step outing outingAtStart).1)
  obtain ⟨_, _, shows, _⟩ := level_tracks_experience outing {} 60 (.ofSeed 2)
    (.refl : Reaches outing outingAtStart outingAtStart)
  obtain ⟨told, level⟩ := shows errand (.ofSeed 2) rfl
  have counted : 0 < (step outing outingAtStart).1.completed := by decide +kernel
  have reached : (step outing outingAtStart).1.player.stats.level = 3 := by
    rw [level won]
    decide +kernel
  refine ⟨counted, even fits rfl declared, reached, ?_⟩
  convert told using 1
  decide +kernel

end Run

end Storyline

import Mathlib.Data.List.Basic
import Storyline.Play.Run

/-!
What a run does to the quests it plays. A step takes one quest that has not been started to its end
and leaves the others where they were; between steps no quest is underway. A run that stops for want
of content has nothing left that could be started.
-/
namespace Storyline

namespace Player

variable (p : Player)

theorem status_setStatus (quest id : RecordId) (status : QuestStatus) :
    (p.setStatus quest status).status id = if id = quest then status else p.status id := by
  by_cases here : id = quest
  · subst here
    simp [Player.status, setStatus, QuestProgress.moveTo]
  · have other : compare id quest ≠ .eq := fun eq => here (Std.LawfulEqCmp.eq_of_compare eq)
    simp [Player.status, setStatus, here, other]

/-! Rewards and deeds leave quests alone. -/

@[simp] theorem quests_addStat (name : String) (delta : Int) :
    (p.addStat name delta).1.quests = p.quests := by
  unfold addStat
  split <;> rfl

@[simp] theorem quests_adjustReputation (faction : String) (delta : Int) :
    (p.adjustReputation faction delta).1.quests = p.quests := rfl

@[simp] theorem quests_gainItem (item : String) : (p.gainItem item).1.quests = p.quests := by
  unfold gainItem
  split <;> rfl

@[simp] theorem quests_loseItem (item : String) : (p.loseItem item).1.quests = p.quests := by
  unfold loseItem
  split <;> rfl

@[simp] theorem quests_applyReward (r : Reward) : (p.applyReward r).1.quests = p.quests := by
  unfold applyReward
  cases r.kind with
  | experience => exact quests_addStat ..
  | gold => exact quests_addStat ..
  | stat => exact quests_addStat ..
  | item =>
    dsimp only
    split
    · exact quests_loseItem ..
    · exact quests_gainItem ..
  | flag => rfl
  | reputation => rfl

@[simp] theorem quests_updateLevel : p.updateLevel.1.quests = p.quests := by
  unfold updateLevel
  dsimp only
  split <;> rfl

end Player

namespace Run

structure Keeps (r r' : Run) : Prop where
  quests : r'.player.quests = r.player.quests
  clock : r'.clock = r.clock
  attempted : r'.attempted = r.attempted
  completed : r'.completed = r.completed
  failed : r'.failed = r.failed

namespace Keeps

variable {r r' r'' : Run}

theorem refl (r : Run) : Keeps r r := ⟨rfl, rfl, rfl, rfl, rfl⟩

theorem trans (first : Keeps r r') (second : Keeps r' r'') : Keeps r r'' where
  quests := second.quests.trans first.quests
  clock := second.clock.trans first.clock
  attempted := second.attempted.trans first.attempted
  completed := second.completed.trans first.completed
  failed := second.failed.trans first.failed

theorem foldl {α : Type} {f : Run → α → Run} (each : ∀ r a, Keeps r (f r a)) (l : List α)
    (r : Run) : Keeps r (l.foldl f r) := by
  induction l generalizing r with
  | nil => exact refl r
  | cons a l ih => exact (each r a).trans (ih (f r a))

theorem emit (r : Run) (e : Event) : Keeps r (r.emit e) := ⟨rfl, rfl, rfl, rfl, rfl⟩

theorem withPlayer (r : Run) {p : Player} (same : p.quests = r.player.quests) :
    Keeps r (r.withPlayer p) := ⟨same, rfl, rfl, rfl, rfl⟩

theorem travel (r : Run) (q : Quest) (time : Nat) : Keeps r (r.travel q time) := by
  unfold Run.travel
  split
  · unfold travelTo
    dsimp only
    split
    · exact refl r
    · exact ⟨rfl, rfl, rfl, rfl, rfl⟩
  · exact refl r

theorem speak (s : Scenario) (r : Run) (q : Quest) (time : Nat) :
    Keeps r (Run.speak s r q time) := by
  have line : ∀ r d, Keeps r (speakLine s time r d) := fun _ _ => ⟨rfl, rfl, rfl, rfl, rfl⟩
  exact foldl line _ r

theorem record (r : Run) (time : Nat) {changed : Player × Option Change}
    (same : changed.1.quests = r.player.quests) : Keeps r (r.record time changed) := by
  obtain ⟨p, change⟩ := changed
  cases change with
  | none => exact withPlayer r same
  | some change => exact (withPlayer r same).trans (emit ..)

theorem reward (time : Nat) (r : Run) (reward : Reward) : Keeps r (Run.reward time r reward) :=
  record r time (r.player.quests_applyReward reward)

theorem levelUp (r : Run) (time : Nat) : Keeps r (r.levelUp time) := by
  have same := r.player.quests_updateLevel
  unfold Run.levelUp
  split
  · rename_i p raised
    rw [raised] at same
    exact withPlayer r same
  · rename_i p old new raised
    rw [raised] at same
    exact (withPlayer r same).trans (emit ..)

theorem creditFaction (time : Nat) (r : Run) (credit : String × Int) :
    Keeps r (Run.creditFaction time r credit) :=
  record r time (r.player.quests_adjustReputation credit.1 credit.2)

theorem judge (r : Run) (q : Quest) (a : Attempt) (time : Nat) : Keeps r (r.judge q a time) := by
  unfold Run.judge
  dsimp only
  split
  · exact refl r
  · split
    · exact withPlayer r rfl
    · exact ⟨rfl, rfl, rfl, rfl, rfl⟩

end Keeps

def outcomeStatus (success : Bool) : QuestStatus := if success then .completed else .failed

def arrive (s : Scenario) (r : Run) (q : Quest) : Run :=
  speak s ((r.begin q r.clock.elapsed).travel q r.clock.elapsed) q r.clock.elapsed

def attemptAt (s : Scenario) (r : Run) (q : Quest) : Attempt × Random.Source :=
  q.attempt (arrive s r q).player (arrive s r q).source

def settle (s : Scenario) (r : Run) (q : Quest) (a : Attempt) (time : Nat) : Run :=
  if a.success then r.complete s q a time else r.fail q a time

/-- A quest is begun and reached, then settled and judged at the end of the attempt. -/
theorem play_eq (s : Scenario) (r : Run) (q : Quest) : play s r q =
    ((settle s { arrive s r q with source := (attemptAt s r q).2 } q (attemptAt s r q).1
      (r.clock.elapsed + (attemptAt s r q).1.seconds)).judge q (attemptAt s r q).1
      (r.clock.elapsed + (attemptAt s r q).1.seconds)).close (attemptAt s r q).1 := rfl

structure Ended (q : Quest) (a : Attempt) (r r' : Run) : Prop where
  drawn : ∃ draw, draw < Nat.pow 2 52 ∧ a.seconds = q.secondsFor draw
  clock : r'.clock = r.clock.advance a.seconds
  quests : r'.player.quests =
    ((r.player.setStatus q.id .inProgress).setStatus q.id (outcomeStatus a.success)).quests
  attempted : r'.attempted = r.attempted + 1
  completed : r'.completed = r.completed + if a.success then 1 else 0
  failed : r'.failed = r.failed + if a.success then 0 else 1
  currentQuest : r'.player.currentQuest = none
  currentDialogue : r'.player.currentDialogue = none

theorem status_congr {p p' : Player} (same : p'.quests = p.quests) (id : RecordId) :
    p'.status id = p.status id := by
  rw [Player.status, Player.status, same]

theorem setStatus_congr {p p' : Player} (same : p'.quests = p.quests) (id : RecordId)
    (status : QuestStatus) : (p'.setStatus id status).quests = (p.setStatus id status).quests := by
  simp only [Player.setStatus, same]

theorem conclude (s : Scenario) (r : Run) (q : Quest) (a : Attempt) (time : Nat) :
    Keeps { r with
        player := r.player.setStatus q.id (outcomeStatus a.success)
        completed := r.completed + if a.success then 1 else 0
        failed := r.failed + if a.success then 0 else 1 }
      (settle s r q a time) := by
  unfold settle
  cases success : a.success with
  | false => exact ⟨rfl, rfl, rfl, rfl, rfl⟩
  | true =>
    have begun : Keeps { r with
          player := r.player.setStatus q.id .completed
          completed := r.completed + 1 }
        (emit { r with
            completed := r.completed + 1
            player := r.player.setStatus q.id .completed } (endEvent q a time)) :=
      ⟨rfl, rfl, rfl, rfl, rfl⟩
    have rewarded := begun.trans (Keeps.foldl (Keeps.reward time) a.rewards _)
    have raised := rewarded.trans (Keeps.levelUp _ time)
    exact raised.trans
      (Keeps.foldl (Keeps.creditFaction time) (q.reputationDeltas s.characters).entries _)

theorem seconds_attempt (q : Quest) (p : Player) (source : Random.Source) :
    ∃ draw, draw < Nat.pow 2 52 ∧ (q.attempt p source).1.seconds = q.secondsFor draw := by
  unfold Quest.attempt Quest.drawSeconds
  refine ⟨_, ?_, rfl⟩
  generalize (Random.Source.draw64 _).1 = w
  have below : w.toNat < 2 ^ 64 := w.toNat_lt
  have shifted : (w >>> 12).toNat = w.toNat >>> 12 := by simp
  rw [shifted, Nat.shiftRight_eq_div_pow, Nat.pow_eq]
  omega

theorem seconds_attemptAt (s : Scenario) (r : Run) (q : Quest) :
    ∃ draw, draw < Nat.pow 2 52 ∧ (attemptAt s r q).1.seconds = q.secondsFor draw := by
  rw [attemptAt]
  exact seconds_attempt q _ _

theorem keeps_arrive (s : Scenario) (r : Run) (q : Quest) :
    Keeps (r.begin q r.clock.elapsed) (arrive s r q) :=
  (Keeps.travel _ q _).trans (Keeps.speak s _ q _)

theorem ended_of_keeps (s : Scenario) {r there : Run} {q : Quest} {a : Attempt}
    (source : Random.Source) (approach : Keeps (r.begin q r.clock.elapsed) there)
    (drawn : ∃ draw, draw < Nat.pow 2 52 ∧ a.seconds = q.secondsFor draw) (time : Nat) :
    Ended q a r (((settle s { there with source } q a time).judge q a time).close a) := by
  have concluded := (conclude s { there with source } q a time).trans (Keeps.judge _ q a time)
  have advanced := congrArg (·.advance a.seconds) (concluded.clock.trans approach.clock)
  exact {
    drawn
    clock := advanced
    quests := concluded.quests.trans (setStatus_congr approach.quests q.id _)
    attempted := concluded.attempted.trans approach.attempted
    completed := concluded.completed.trans (congrArg (· + _) approach.completed)
    failed := concluded.failed.trans (congrArg (· + _) approach.failed)
    currentQuest := rfl
    currentDialogue := rfl }

theorem play_ends (s : Scenario) (r : Run) (q : Quest) :
    Ended q (attemptAt s r q).1 r (play s r q) := by
  -- the run that has arrived goes in as a variable, so that nothing unfolds the draws
  rw [play_eq]
  exact ended_of_keeps s _ (keeps_arrive s r q) (seconds_attemptAt s r q) _

theorem Ended.status {q : Quest} {a : Attempt} {r r' : Run} (h : Ended q a r r')
    (id : RecordId) :
    r'.player.status id = if id = q.id then outcomeStatus a.success else r.player.status id := by
  rw [status_congr h.quests, Player.status_setStatus, Player.status_setStatus]
  split <;> rfl

theorem Ended.not_waiting {q : Quest} {a : Attempt} {r r' : Run} (h : Ended q a r r') :
    r'.player.status q.id ≠ .notStarted := by
  rw [h.status, if_pos rfl]
  cases a.success <;> decide

theorem Ended.of_source {q : Quest} {a : Attempt} {r r' : Run} {source : Random.Source}
    (h : Ended q a { r with source } r') : Ended q a r r' :=
  ⟨h.drawn, h.clock, h.quests, h.attempted, h.completed, h.failed, h.currentQuest,
    h.currentDialogue⟩

/-! One step. -/

theorem mem_available_iff {s : Scenario} {r : Run} {i : Nat} :
    i ∈ available s r ↔ ∃ q, s.quests[i]? = some q ∧ r.canStart q = true := by
  simp [available, List.mem_zipIdx_iff_getElem?, and_comm]

theorem available_eq_nil_iff {s : Scenario} {r : Run} :
    available s r = [] ↔ ∀ q ∈ s.quests, r.canStart q = false := by
  rw [List.eq_nil_iff_forall_not_mem]
  constructor
  · intro none q hq
    obtain ⟨i, here⟩ := List.mem_iff_getElem?.1 hq
    by_contra can
    exact none i (mem_available_iff.2 ⟨q, here, by simpa using can⟩)
  · intro none i hi
    obtain ⟨q, here, can⟩ := mem_available_iff.1 hi
    rw [none q (List.mem_of_getElem? here)] at can
    cases can

theorem select_mem (style : PlayStyle) (quests : List Quest) (source : Random.Source) {l : List Nat}
    (some_left : l ≠ []) : ∃ i ∈ l, (style.select quests l source).1 = some i := by
  cases l with
  | nil => exact absurd rfl some_left
  | cons first rest =>
    unfold PlayStyle.select
    cases style.preferred? with
    | some t =>
      refine ⟨_, ?_, rfl⟩
      cases found : (first :: rest).find? (PlayStyle.hasType quests t) with
      | none => exact List.mem_cons_self
      | some i => exact List.mem_of_find?_eq_some found
    | none =>
      refine ⟨_, ?_, rfl⟩
      rw [List.getD_eq_getElem?_getD]
      cases here : (first :: rest)[(source.below (first :: rest).length).1]? with
      | none => exact List.mem_cons_self
      | some i => exact List.mem_of_getElem? here

theorem pick_cases (s : Scenario) (r : Run) :
    pick s r = (none, r.source) ∧ available s r = [] ∨
    ∃ q ∈ s.quests, r.canStart q = true ∧ ∃ source, pick s r = (some q, source) := by
  by_cases none : available s r = []
  · left
    refine ⟨?_, none⟩
    rw [pick, none]
    rfl
  · right
    obtain ⟨i, hi, picked⟩ := select_mem s.style s.quests r.source none
    obtain ⟨q, here, can⟩ := mem_available_iff.1 hi
    refine ⟨q, List.mem_of_getElem? here, can,
      (s.style.select s.quests (available s r) r.source).2, ?_⟩
    simp [pick, picked, here]

theorem mem_quests_of_pick {s : Scenario} {r : Run} {q : Quest} {source : Random.Source}
    (picked : pick s r = (some q, source)) : q ∈ s.quests := by
  rcases pick_cases s r with ⟨nothing, _⟩ | ⟨other, known, _, _, same⟩
  · rw [nothing] at picked
    cases picked
  · rw [same] at picked
    cases picked
    exact known

theorem step_cases (s : Scenario) (r : Run) :
    step s r = (r, false) ∧ available s r = [] ∨
    ∃ q ∈ s.quests, r.canStart q = true ∧
      ∃ source, pick s r = (some q, source) ∧ step s r = (play s { r with source } q, true) := by
  rcases pick_cases s r with ⟨nothing, none⟩ | ⟨q, hq, can, source, picked⟩
  · left
    refine ⟨?_, none⟩
    rw [step, nothing]
  · right
    refine ⟨q, hq, can, source, picked, ?_⟩
    rw [step, picked]

theorem step?_eq_some_iff {s : Scenario} {r r' : Run} :
    step? s r = some r' ↔ step s r = (r', true) := by
  rw [step?]
  rcases step_cases s r with ⟨stays, _⟩ | ⟨q, _, _, source, _, goes⟩
  · simp [stays]
  · simp [goes]

theorem step?_eq_none_iff {s : Scenario} {r : Run} :
    step? s r = none ↔ ∀ q ∈ s.quests, r.canStart q = false := by
  rw [← available_eq_nil_iff, step?]
  rcases step_cases s r with ⟨stays, none⟩ | ⟨q, hq, can, source, _, goes⟩
  · simp [stays, none]
  · have some_left : available s r ≠ [] := by
      intro none
      rw [available_eq_nil_iff.1 none q hq] at can
      cases can
    simp [goes, some_left]

theorem exists_step {s : Scenario} {r : Run} {q : Quest} (hq : q ∈ s.quests)
    (can : r.canStart q = true) : ∃ r', step? s r = some r' := by
  cases next : step? s r with
  | some r' => exact ⟨r', rfl⟩
  | none =>
    rw [step?_eq_none_iff.1 next q hq] at can
    cases can

theorem exists_picked {s : Scenario} {r r' : Run} (h : step? s r = some r') :
    ∃ q ∈ s.quests, r.canStart q = true ∧
      ∃ source, pick s r = (some q, source) ∧ r' = play s { r with source } q := by
  rw [step?_eq_some_iff] at h
  rcases step_cases s r with ⟨stays, _⟩ | ⟨q, hq, can, source, picked, goes⟩
  · rw [stays] at h
    cases h
  · rw [goes] at h
    cases h
    exact ⟨q, hq, can, source, picked, rfl⟩

theorem step_ends {s : Scenario} {r r' : Run} (h : step? s r = some r') :
    ∃ q ∈ s.quests, r.canStart q = true ∧ ∃ a, Ended q a r r' := by
  obtain ⟨q, hq, can, source, _, rfl⟩ := exists_picked h
  exact ⟨q, hq, can, _, (play_ends s { r with source } q).of_source⟩

theorem status_of_canStart {r : Run} {q : Quest} (can : r.canStart q = true) :
    r.player.status q.id = .notStarted := by
  simp only [canStart, Bool.and_eq_true, decide_eq_true_eq] at can
  exact can.1

def NoneUnderway (r : Run) : Prop := ∀ id, r.player.status id ≠ .inProgress

theorem NoneUnderway.step {s : Scenario} {r r' : Run} (idle : r.NoneUnderway)
    (h : step? s r = some r') : r'.NoneUnderway := by
  obtain ⟨q, _, _, a, ended⟩ := step_ends h
  intro id
  rw [ended.status]
  split
  · cases a.success <;> decide
  · exact idle id

def remaining (s : Scenario) (r : Run) : Nat :=
  s.quests.countP fun q => r.player.status q.id = .notStarted

theorem remaining_step {s : Scenario} {r r' : Run} (h : step? s r = some r') :
    remaining s r' < remaining s r := by
  obtain ⟨q, hq, can, a, ended⟩ := step_ends h
  have fewer : ∀ o ∈ s.quests, r'.player.status o.id = .notStarted →
      r.player.status o.id = .notStarted := by
    intro o _ later
    rw [ended.status] at later
    split at later
    · cases success : a.success <;> rw [success] at later <;> cases later
    · exact later
  obtain ⟨before, after, parts⟩ := List.append_of_mem hq
  have head : before.countP (fun o => r'.player.status o.id = .notStarted) ≤
      before.countP fun o => r.player.status o.id = .notStarted :=
    List.countP_mono_left fun o ho => by simpa using fewer o (by simp [parts, ho])
  have tail : after.countP (fun o => r'.player.status o.id = .notStarted) ≤
      after.countP fun o => r.player.status o.id = .notStarted :=
    List.countP_mono_left fun o ho => by simpa using fewer o (by simp [parts, ho])
  simp only [remaining, parts, List.countP_append, List.countP_cons, ended.not_waiting,
    status_of_canStart can, decide_true, decide_false, if_true]
  simp only [Bool.false_eq_true, if_false]
  omega

/-! A whole run. -/

theorem finish_preserves {s : Scenario} {expired : Nat → Bool} {P : Run → Prop}
    (step : ∀ r r', r.clock.isExhausted = false → step? s r = some r' → P r → P r') (fuel : Nat)
    (r : Run) (h : P r) : P (finish s expired fuel r).1 := by
  fun_induction finish s expired fuel r with
  | case1 => exact h
  | case2 => exact h
  | case3 r left _ n r' next ih => exact ih (step r r' (by simpa using left) next h)
  | case4 => exact h

theorem finish_succ {s : Scenario} {expired : Nat → Bool} {r r' : Run}
    (left : r.clock.isExhausted = false) (early : expired r.attempted = false)
    (next : step? s r = some r') (fuel : Nat) :
    finish s expired (fuel + 1) r = finish s expired fuel r' := by
  rw [finish.eq_def]
  simp [left, early, next]

theorem finish_reason (s : Scenario) (expired : Nat → Bool) (fuel : Nat) (r : Run) :
    ((finish s expired fuel r).2 = .timeBudget →
      (finish s expired fuel r).1.clock.isExhausted = true) ∧
    ((finish s expired fuel r).2 = .deadline →
      expired (finish s expired fuel r).1.attempted = true) := by
  fun_induction finish s expired fuel r with
  | case1 r _ exhausted =>
    constructor
    · intro _
      exact exhausted
    · intro other
      cases other
  | case2 r _ _ late =>
    constructor
    · intro other
      cases other
    · intro _
      exact late
  | case3 r _ _ n r' next ih => exact ih
  | case4 =>
    constructor
    · intro other
      cases other
    · intro other
      cases other

/-- A run that stops for want of content stops where no step can be made. -/
theorem finish_maximal {s : Scenario} {expired : Nat → Bool} (fuel : Nat) (r : Run)
    (enough : remaining s r ≤ fuel) (stopped : (finish s expired fuel r).2 = .noAvailableQuests) :
    step? s (finish s expired fuel r).1 = none := by
  fun_induction finish s expired fuel r with
  | case1 => cases stopped
  | case2 => cases stopped
  | case3 r _ _ n r' next ih =>
    have := remaining_step next
    exact ih (by omega) stopped
  | case4 fuel r _ _ last =>
    cases next : step? s r with
    | none => rfl
    | some r' =>
      have := remaining_step next
      obtain ⟨n, rfl⟩ : ∃ n, fuel = n + 1 := ⟨fuel - 1, by omega⟩
      exact (last n r' rfl next).elim

theorem toEnd_maximal {s : Scenario} {expired : Nat → Bool} (r : Run)
    (stopped : (toEnd s expired r).2 = .noAvailableQuests) :
    ∀ q ∈ s.quests, (toEnd s expired r).1.canStart q = false :=
  step?_eq_none_iff.1 (finish_maximal s.quests.length r List.countP_le_length stopped)

theorem status_enroll {p : Player} (fresh : ∀ id, p.status id = .notStarted) (quests : List Quest)
    (id : RecordId) : (enroll quests p).status id = .notStarted := by
  unfold enroll
  induction quests generalizing p with
  | nil => exact fresh id
  | cons q quests ih =>
    apply ih
    intro other
    rw [Player.status_setStatus]
    split
    · rfl
    · exact fresh other

theorem noneUnderway_start (s : Scenario) (o : StartingPlayer) (minutes : Nat)
    (source : Random.Source) : (start s o.player minutes source).NoneUnderway := by
  intro id
  have fresh : ∀ id, o.player.status id = .notStarted := fun _ => rfl
  have stands : (start s o.player minutes source).player.status id = .notStarted :=
    status_enroll fresh s.quests id
  rw [stands]
  decide

end Run

end Storyline

import Storyline.Proofs.Play.Halt

/-!
Views of a run: the run with something about it changed or left out that play does not look at.
Those parts are the progress of quests beyond their status, the line spoken last, the log and the
budget. What a view of a run steps to is the view of what the run steps to; only whether the budget
is used up may look different.
-/
namespace Storyline

structure View where
  quests : SortedMap RecordId QuestProgress → SortedMap RecordId QuestProgress
  dialogue : Option RecordId → Option RecordId
  log : EventLog → EventLog
  budget : Nat → Nat
  getD_quests : ∀ m id, (quests m).getD id {} = m.getD id {}
  quests_insert : ∀ m id progress, quests (m.insert id progress) = (quests m).insert id progress
  dialogue_none : dialogue none = none
  log_push : ∀ l e, e.kind ≠ .dialogue → log (l.push e) = (log l).push e

def View.whole : View where
  quests := id
  dialogue := id
  log := id
  budget := id
  getD_quests _ _ := rfl
  quests_insert _ _ _ := rfl
  dialogue_none := rfl
  log_push _ _ _ := rfl

namespace View

def player (v : View) (p : Player) : Player :=
  { p with quests := v.quests p.quests, currentDialogue := v.dialogue p.currentDialogue }

def run (v : View) (r : Run) : Run :=
  { r with
    clock := { r.clock with budget := v.budget r.clock.budget }
    log := v.log r.log
    player := v.player r.player }

def changed {α : Type} (v : View) (c : Player × α) : Player × α := (v.player c.1, c.2)

variable (v : View) (p : Player) (r : Run)

/-! Conditions do not tell a player from a view. -/

theorem status_player (id : RecordId) : (v.player p).status id = p.status id := by
  have known : ∀ p : Player, p.status id = (p.quests.getD id {}).status := by
    intro p
    unfold Player.status SortedMap.getD
    cases p.quests.get? id <;> rfl
  rw [known, known, player, v.getD_quests]

theorem hasCompleted_player (id : RecordId) : (v.player p).hasCompleted id = p.hasCompleted id := by
  rw [Player.hasCompleted, Player.hasCompleted, status_player]

@[simp] theorem stats_player : (v.player p).stats = p.stats := rfl

@[simp] theorem holds_player (item : String) : (v.player p).holds item = p.holds item := rfl

@[simp] theorem standing_player (faction : String) :
    (v.player p).standing faction = p.standing faction := rfl

theorem satisfies_player (c : Condition) : (v.player p).satisfies c = p.satisfies c := by
  unfold Player.satisfies
  cases c.subject with
  | quest => simp only [hasCompleted_player]
  | flag => rfl
  | inventory => rw [holds_player]
  | stat => rw [stats_player]
  | reputation => rw [standing_player]

theorem meets_player (c : AuthoredCondition) : (v.player p).meets c = p.meets c := by
  unfold Player.meets
  cases Condition.ofAuthored c with
  | error e => rfl
  | ok c => exact v.satisfies_player p c

theorem satisfiesPrerequisite_player (c : Condition) :
    (v.player p).satisfiesPrerequisite c = p.satisfiesPrerequisite c := by
  unfold Player.satisfiesPrerequisite
  cases c.subject with
  | quest => exact v.hasCompleted_player p c.target
  | stat => rw [stats_player]
  | flag => rfl
  | reputation => rw [standing_player]
  | inventory => rfl

theorem meetsPrerequisite_player (c : AuthoredCondition) :
    (v.player p).meetsPrerequisite c = p.meetsPrerequisite c := by
  unfold Player.meetsPrerequisite
  cases Condition.ofAuthored c with
  | error e => rfl
  | ok c => exact v.satisfiesPrerequisite_player p c

theorem canStart_run (q : Quest) : (v.run r).canStart q = r.canStart q := by
  have meets : (v.player r.player).meetsPrerequisite = r.player.meetsPrerequisite :=
    funext (v.meetsPrerequisite_player r.player)
  simp only [Run.canStart, run, status_player, meets]

/-! Mutations of a view. -/

theorem setStatus_player (id : RecordId) (status : QuestStatus) :
    (v.player p).setStatus id status = v.player (p.setStatus id status) := by
  simp only [Player.setStatus, player, v.getD_quests, v.quests_insert]

theorem addStat_player (name : String) (delta : Int) :
    (v.player p).addStat name delta = v.changed (p.addStat name delta) := by
  unfold Player.addStat
  split <;> rfl

theorem gainItem_player (item : String) :
    (v.player p).gainItem item = v.changed (p.gainItem item) := by
  change (if p.inventory.contains item then _ else _) = v.changed (if _ then _ else _)
  split <;> rfl

theorem loseItem_player (item : String) :
    (v.player p).loseItem item = v.changed (p.loseItem item) := by
  change (if p.inventory.contains item then _ else _) = v.changed (if _ then _ else _)
  split <;> rfl

theorem applyReward_player (w : Reward) :
    (v.player p).applyReward w = v.changed (p.applyReward w) := by
  unfold Player.applyReward
  cases w.kind with
  | experience => exact v.addStat_player p _ _
  | gold => exact v.addStat_player p _ _
  | stat => exact v.addStat_player p _ _
  | item =>
    dsimp only
    split
    · exact v.loseItem_player p _
    · exact v.gainItem_player p _
  | flag => rfl
  | reputation => rfl

theorem updateLevel_player : (v.player p).updateLevel = v.changed p.updateLevel := by
  unfold Player.updateLevel
  dsimp only [player]
  split <;> rfl

/-! Stages of an attempt. -/

theorem run_emit {e : Event} (said : e.kind ≠ .dialogue) : (v.run r).emit e = v.run (r.emit e) := by
  simp only [Run.emit, run, v.log_push _ _ said]

theorem run_begin (q : Quest) (time : Nat) : (v.run r).begin q time = v.run (r.begin q time) := by
  unfold Run.begin
  rw [← v.run_emit _ (by simp)]
  simp only [run, setStatus_player]
  rfl

theorem run_travel (q : Quest) (time : Nat) :
    (v.run r).travel q time = v.run (r.travel q time) := by
  unfold Run.travel
  split
  · rename_i place _
    change (if place = r.player.location then _ else _) = v.run (if _ then _ else _)
    split
    · rfl
    · rw [← v.run_emit _ (by simp)]
      rfl
  · rfl

theorem run_record (time : Nat) (c : Player × Option Change) :
    (v.run r).record time (v.changed c) = v.run (r.record time c) := by
  obtain ⟨p, change⟩ := c
  cases change with
  | none => rfl
  | some change =>
    have told : (Run.changeEvent p time change).kind ≠ .dialogue := by
      cases change <;> simp [Run.changeEvent]
    have same : Run.changeEvent (v.player p) time change = Run.changeEvent p time change := by
      cases change <;> rfl
    simp only [Run.record, changed]
    rw [← v.run_emit _ told, same]
    rfl

theorem run_reward (time : Nat) (w : Reward) :
    Run.reward time (v.run r) w = v.run (Run.reward time r w) := by
  rw [Run.reward, Run.reward, ← run_record, ← applyReward_player]
  rfl

theorem run_levelUp (time : Nat) : (v.run r).levelUp time = v.run (r.levelUp time) := by
  unfold Run.levelUp
  rw [show (v.run r).player.updateLevel = v.changed r.player.updateLevel from
    v.updateLevel_player r.player]
  obtain ⟨p, raised⟩ := r.player.updateLevel
  cases raised with
  | none => rfl
  | some levels =>
    simp only [changed]
    rw [← v.run_emit _ (by simp)]
    rfl

theorem run_creditFaction (time : Nat) (credit : String × Int) :
    Run.creditFaction time (v.run r) credit = v.run (Run.creditFaction time r credit) := by
  rw [Run.creditFaction, Run.creditFaction, ← run_record]
  rfl

theorem run_settle {s s' : Scenario} (cast : s'.characters = s.characters) (q : Quest) (a : Attempt)
    (time : Nat) : Run.settle s' (v.run r) q a time = v.run (Run.settle s r q a time) := by
  unfold Run.settle
  split
  · unfold Run.complete
    have rewarded (r : Run) : a.rewards.foldl (Run.reward time) (v.run r) =
        v.run (a.rewards.foldl (Run.reward time) r) :=
      List.foldl_hom v.run fun r w => v.run_reward r time w
    have credited (l : List (String × Int)) (r : Run) :
        l.foldl (Run.creditFaction time) (v.run r) = v.run (l.foldl (Run.creditFaction time) r) :=
      List.foldl_hom v.run fun r credit => v.run_creditFaction r time credit
    rw [cast, ← credited, ← run_levelUp, ← rewarded, ← v.run_emit _ (by simp [Run.endEvent])]
    simp only [run, setStatus_player]
  · unfold Run.fail
    rw [← v.run_emit _ (by simp [Run.endEvent])]
    simp only [run, setStatus_player]

theorem run_judge (q : Quest) (a : Attempt) (time : Nat) :
    (v.run r).judge q a time = v.run (r.judge q a time) := by
  unfold Run.judge
  generalize alignmentDelta q.type a.choices = delta
  have same : (v.run r).withPlayer ((v.run r).player.shiftAlignment delta) =
      v.run (r.withPlayer (r.player.shiftAlignment delta)) := rfl
  dsimp only
  rw [same]
  generalize r.withPlayer (r.player.shiftAlignment delta) = shifted
  split
  · rfl
  · change (if (shifted.player.alignment.diff r.player.alignment).isZero = true then _ else _) =
      v.run (if _ then _ else _)
    split
    · rfl
    · rw [← v.run_emit _ (by simp)]
      rfl

theorem run_close (a : Attempt) : (v.run r).close a = v.run (r.close a) := by
  simp only [Run.close, run, player, Clock.advance, v.dialogue_none]

theorem attempt_player (q : Quest) (source : Random.Source) :
    q.attempt (v.player p) source = q.attempt p source := by
  have chance : q.successChance (v.player p) = q.successChance p := by
    unfold Quest.successChance Quest.hasBonus
    rw [stats_player]
  have choices : q.choices (v.player p) = q.choices p := by
    unfold Quest.choices
    rw [stats_player]
  unfold Quest.attempt
  rw [chance, choices]

theorem available_run (s : Scenario) : Run.available s (v.run r) = Run.available s r := by
  unfold Run.available
  simp only [canStart_run]

theorem pick_run (s : Scenario) : Run.pick s (v.run r) = Run.pick s r := by
  unfold Run.pick
  rw [available_run]
  rfl

theorem run_speak {s s' : Scenario} (cast : s'.characters = s.characters)
    (script : s'.dialogues = s.dialogues) (heard : ∀ id, v.dialogue (some id) = some id)
    (noted : ∀ l e, v.log (l.push e) = (v.log l).push e) (q : Quest) (time : Nat) :
    Run.speak s' (v.run r) q time = v.run (Run.speak s r q time) := by
  have spoken : Run.isSpoken (v.run r).player q = Run.isSpoken r.player q := by
    funext d
    have meets : (v.run r).player.meets = r.player.meets := funext (v.meets_player r.player)
    rw [Run.isSpoken, Run.isSpoken, meets]
  have line (r : Run) (d : Dialogue) :
      Run.speakLine s' time (v.run r) d = v.run (Run.speakLine s time r d) := by
    have same : Run.lineEvent s' time d = Run.lineEvent s time d := by
      rw [Run.lineEvent, Run.lineEvent, Run.speaker, Run.speaker, cast]
    simp only [Run.speakLine, Run.emit, Run.withPlayer, run, player, same, heard, noted]
  unfold Run.speak
  rw [script, spoken]
  exact List.foldl_hom v.run line

end View

def Quest.bare (q : Quest) : Quest := { q with outcomes := [] }

theorem Run.play_bare (s : Scenario) (r : Run) (q : Quest) : play s r q.bare = play s r q := rfl

/-- The view of a run of one scenario is a run of another. Quests are picked alike, their outcomes
apart, and the lines spoken make no difference to what is in view. -/
structure View.Carries (v : View) (s s' : Scenario) : Prop where
  characters : s'.characters = s.characters
  lines : ∀ r q time, Run.speak s' (v.run r) q time = v.run (Run.speak s r q time)
  quest : ∀ r, (Run.pick s' (v.run r)).1.map Quest.bare = (Run.pick s r).1.map Quest.bare
  source : ∀ r, (Run.pick s' (v.run r)).2 = (Run.pick s r).2

namespace View.Carries

variable {v : View} {s s' : Scenario}

theorem arrive (h : v.Carries s s') (r : Run) (q : Quest) :
    Run.arrive s' (v.run r) q = v.run (Run.arrive s r q) := by
  rw [Run.arrive, Run.arrive, ← h.lines, ← run_travel, ← run_begin]
  rfl

theorem attemptAt (h : v.Carries s s') (r : Run) (q : Quest) :
    Run.attemptAt s' (v.run r) q = Run.attemptAt s r q := by
  rw [Run.attemptAt, Run.attemptAt, h.arrive]
  exact v.attempt_player _ q _

theorem play (h : v.Carries s s') (r : Run) (q : Quest) :
    Run.play s' (v.run r) q = v.run (Run.play s r q) := by
  rw [Run.play_eq, Run.play_eq, h.attemptAt, h.arrive]
  generalize Run.attemptAt s r q = drawn
  rw [← run_close, ← run_judge, ← v.run_settle _ h.characters]
  rfl

theorem step (h : v.Carries s s') (r : Run) :
    Run.step s' (v.run r) = (v.run (Run.step s r).1, (Run.step s r).2) := by
  have quest := h.quest r
  have source := h.source r
  unfold Run.step
  generalize Run.pick s r = here at quest source
  generalize Run.pick s' (v.run r) = there at quest source
  obtain ⟨picked, after⟩ := here
  obtain ⟨picked', after'⟩ := there
  dsimp only at quest source
  subst source
  cases picked with
  | none =>
    cases picked' with
    | none => rfl
    | some q' => cases quest
  | some q =>
    cases picked' with
    | none => cases quest
    | some q' =>
      have same : q'.bare = q.bare := Option.some.inj quest
      have played := h.play { r with source := after' } q
      dsimp only
      rw [← played, ← Run.play_bare s' _ q, ← same, Run.play_bare]
      rfl

theorem step_eq (h : v.Carries s s') {r r' : Run} {more : Bool} (next : Run.step s r = (r', more)) :
    Run.step s' (v.run r) = (v.run r', more) := by
  rw [h.step, next]

theorem playsOn (h : v.Carries s s') (same : ∀ b, v.budget b = b) {expired : Nat → Bool} {n : Nat}
    {r last : Run} {t : Termination} (played : Run.PlaysOn s expired n r last t) :
    Run.PlaysOn s' expired n (v.run r) (v.run last) t := by
  have clock (r : Run) : (v.run r).clock = r.clock := by simp only [run, same]
  induction played with
  | exhausted spent => exact .exhausted (by rw [clock]; exact spent)
  | late left late => exact .late (by rw [clock]; exact left) late
  | idle left early stays => exact .idle (by rw [clock]; exact left) early (h.step_eq stays)
  | attempt left early goes _ ih =>
    exact .attempt (by rw [clock]; exact left) early (h.step_eq goes) ih

end View.Carries

end Storyline

import Mathlib.Data.Finset.Card
import Storyline.Proofs.Play.Course

/-!
How far the quests of a run have come. Between steps each quest is at rest, at its beginning or at
its end, and the counts of the run are those of the quests that have ended. Records may share an
identifier; they then share their progress. Nothing is claimed of the time a quest is underway.
-/
namespace Storyline

namespace Player

variable (p : Player)

theorem get?_setStatus (quest id : RecordId) (status : QuestStatus) :
    (p.setStatus quest status).quests.get? id =
      if id = quest then some ((p.quests.getD quest {}).moveTo status) else p.quests.get? id := by
  simp [setStatus]

end Player

def QuestProgress.AtRest (p : QuestProgress) : Prop :=
  p.status = .notStarted ∧ p.percent = 0 ∨
  (p.status = .completed ∨ p.status = .failed) ∧ p.percent = 100

def Scenario.ids (s : Scenario) : Finset RecordId := (s.quests.map (·.id)).toFinset

theorem Scenario.mem_ids_iff {s : Scenario} {id : RecordId} :
    id ∈ s.ids ↔ ∃ q ∈ s.quests, q.id = id := by
  simp [ids]

namespace Run

def ended (s : Scenario) (r : Run) : Finset RecordId :=
  s.ids.filter fun id => (r.player.status id).isTerminal = true

structure BetweenSteps (s : Scenario) (r : Run) : Prop where
  noneUnderway : r.NoneUnderway
  keys : ∀ id, id ∈ r.player.quests.keys ↔ ∃ q ∈ s.quests, q.id = id
  atRest : ∀ q ∈ s.quests, ∃ p, r.player.quests.get? q.id = some p ∧ p.AtRest
  currentQuest : r.player.currentQuest = none
  currentDialogue : r.player.currentDialogue = none
  outcomes : r.attempted = r.completed + r.failed
  attempts : r.attempted = (r.ended s).card

/-! Where a run starts. -/

theorem isSome_get?_enroll (quests : List Quest) (p : Player) (id : RecordId) :
    ((enroll quests p).quests.get? id).isSome = true ↔
      (p.quests.get? id).isSome = true ∨ ∃ q ∈ quests, q.id = id := by
  unfold enroll
  induction quests generalizing p with
  | nil => simp
  | cons q quests ih =>
    rw [List.foldl_cons, ih, Player.get?_setStatus]
    by_cases here : id = q.id
    · simp [here]
    · have other : q.id ≠ id := fun eq => here eq.symm
      simp [here, other]

theorem atRest_enroll (quests : List Quest) {p : Player}
    (fresh : ∀ id progress, p.quests.get? id = some progress → progress.AtRest) (id : RecordId)
    (progress : QuestProgress) (h : (enroll quests p).quests.get? id = some progress) :
    progress.AtRest := by
  unfold enroll at h
  induction quests generalizing p with
  | nil => exact fresh id progress h
  | cons q quests ih =>
    apply ih _ h
    intro other progress h
    rw [Player.get?_setStatus] at h
    split at h
    · cases h
      exact .inl ⟨rfl, rfl⟩
    · exact fresh other progress h

theorem frame_enroll (quests : List Quest) (p : Player) :
    (enroll quests p).currentQuest = p.currentQuest ∧
    (enroll quests p).currentDialogue = p.currentDialogue := by
  unfold enroll
  induction quests generalizing p with
  | nil => exact ⟨rfl, rfl⟩
  | cons q quests ih => exact ih (p.setStatus q.id .notStarted)

theorem status_start (s : Scenario) (o : StartingPlayer) (minutes : Nat) (source : Random.Source)
    (id : RecordId) : (start s o.player minutes source).player.status id = .notStarted :=
  status_enroll (fun _ => rfl) s.quests id

theorem betweenSteps_start (s : Scenario) (o : StartingPlayer) (minutes : Nat)
    (source : Random.Source) : (start s o.player minutes source).BetweenSteps s where
  noneUnderway := noneUnderway_start s o minutes source
  keys id := by
    have unknown : o.player.quests.get? id = none := rfl
    rw [SortedMap.mem_keys_iff]
    exact (isSome_get?_enroll s.quests o.player id).trans (by simp [unknown])
  atRest q hq := by
    have enrolled := (isSome_get?_enroll s.quests o.player q.id).2 (.inr ⟨q, hq, rfl⟩)
    obtain ⟨progress, known⟩ := Option.isSome_iff_exists.1 enrolled
    have unknown : ∀ id progress, o.player.quests.get? id = some progress → progress.AtRest := by
      intro id progress h
      cases h
    exact ⟨progress, known, atRest_enroll s.quests unknown q.id progress known⟩
  currentQuest := (frame_enroll s.quests o.player).1
  currentDialogue := (frame_enroll s.quests o.player).2
  outcomes := rfl
  attempts := by
    have none : (start s o.player minutes source).ended s = ∅ := by
      apply Finset.filter_false_of_mem
      intro id _
      rw [status_start]
      decide
    rw [none]
    rfl

/-! What a step keeps. -/

theorem Ended.get? {q : Quest} {a : Attempt} {r r' : Run} (h : Ended q a r r') (id : RecordId) :
    ∃ underway : QuestProgress, r'.player.quests.get? id =
      if id = q.id then some (underway.moveTo (outcomeStatus a.success))
      else r.player.quests.get? id := by
  rw [h.quests, Player.get?_setStatus, Player.get?_setStatus]
  split
  · exact ⟨_, rfl⟩
  · exact ⟨{}, rfl⟩

theorem isTerminal_outcomeStatus (success : Bool) : (outcomeStatus success).isTerminal = true := by
  cases success <;> rfl

theorem atRest_moveTo (p : QuestProgress) (success : Bool) :
    (p.moveTo (outcomeStatus success)).AtRest := by
  cases success
  · exact .inr ⟨.inr rfl, rfl⟩
  · exact .inr ⟨.inl rfl, rfl⟩

theorem Ended.ended {s : Scenario} {q : Quest} {a : Attempt} {r r' : Run} (h : Ended q a r r')
    (hq : q ∈ s.quests) : r'.ended s = insert q.id (r.ended s) := by
  have known : q.id ∈ s.ids := Scenario.mem_ids_iff.2 ⟨q, hq, rfl⟩
  ext id
  simp only [Run.ended, Finset.mem_filter, Finset.mem_insert, h.status]
  by_cases here : id = q.id
  · simp [here, known, isTerminal_outcomeStatus]
  · simp [here]

theorem BetweenSteps.step {s : Scenario} {r r' : Run} (h : r.BetweenSteps s)
    (next : step? s r = some r') : r'.BetweenSteps s := by
  obtain ⟨q, hq, can, a, ended⟩ := step_ends next
  have waiting : q.id ∉ r.ended s := by
    intro finished
    have terminal := (Finset.mem_filter.1 finished).2
    rw [status_of_canStart can] at terminal
    cases terminal
  refine {
    noneUnderway := h.noneUnderway.step next
    keys := ?_
    atRest := ?_
    currentQuest := ended.currentQuest
    currentDialogue := ended.currentDialogue
    outcomes := ?_
    attempts := ?_ }
  · intro id
    obtain ⟨underway, now⟩ := ended.get? id
    have before := h.keys id
    rw [SortedMap.mem_keys_iff] at before ⊢
    rw [now]
    by_cases here : id = q.id
    · simp only [if_pos here, Option.isSome_some, true_iff]
      exact ⟨q, hq, here.symm⟩
    · rw [if_neg here]
      exact before
  · intro o ho
    obtain ⟨underway, now⟩ := ended.get? o.id
    rw [now]
    split
    · exact ⟨_, rfl, atRest_moveTo underway a.success⟩
    · exact h.atRest o ho
  · have balance := h.outcomes
    rw [ended.attempted, ended.completed, ended.failed]
    cases a.success <;> simp only [Bool.false_eq_true, if_true, if_false] <;> omega
  · rw [ended.attempted, ended.ended hq, Finset.card_insert_of_notMem waiting, h.attempts]

theorem Reaches.betweenSteps {s : Scenario} {o : StartingPlayer} {minutes : Nat}
    {source : Random.Source} {r : Run} (reached : Reaches s (start s o.player minutes source) r) :
    r.BetweenSteps s :=
  reached.preserves (fun _ _ next h => h.step next) (betweenSteps_start s o minutes source)

theorem BetweenSteps.exists_ended {s : Scenario} {r : Run} (h : r.BetweenSteps s)
    (some_played : 0 < r.attempted) : ∃ id, (r.player.status id).isTerminal = true := by
  rw [h.attempts, Finset.card_pos] at some_played
  obtain ⟨id, finished⟩ := some_played
  exact ⟨id, (Finset.mem_filter.1 finished).2⟩

theorem terminal_stays {s : Scenario} {r r' : Run} (reached : Reaches s r r') {id : RecordId}
    (finished : (r.player.status id).isTerminal = true) :
    r'.player.status id = r.player.status id := by
  refine reached.preserves (P := fun r' => r'.player.status id = r.player.status id) ?_ rfl
  intro m m' next same
  obtain ⟨q, _, can, a, ended⟩ := step_ends next
  have elsewhere : id ≠ q.id := by
    rintro rfl
    rw [← same, status_of_canStart can] at finished
    cases finished
  rw [ended.status, if_neg elsewhere, same]

/-- Each quest is attempted at most once. In every run that steps lead to, no quest is underway,
each is on record at its beginning or its end, and the counts are those of the identifiers that
have ended. A step with a quest to play ends one identifier that was waiting and leaves the status
of all others; what has ended stays as it is; and a step without one leaves the run as it was. -/
theorem quests_end_once (s : Scenario) (o : StartingPlayer) (minutes : Nat)
    (source : Random.Source) {r : Run} (reached : Reaches s (start s o.player minutes source) r) :
    r.BetweenSteps s ∧
    (∀ r', step s r = (r', true) → ∃ q ∈ s.quests,
      r.player.status q.id = .notStarted ∧ (r'.player.status q.id).isTerminal = true ∧
      ∀ id, id ≠ q.id → r'.player.status id = r.player.status id) ∧
    (∀ r', Reaches s r r' → ∀ id, (r.player.status id).isTerminal = true →
      r'.player.status id = r.player.status id) ∧
    (∀ r', step s r = (r', false) → r' = r) := by
  refine ⟨reached.betweenSteps, ?_, fun r' later id finished => terminal_stays later finished, ?_⟩
  · intro r' goes
    obtain ⟨q, hq, can, a, ended⟩ := step_ends (step?_eq_some_iff.2 goes)
    refine ⟨q, hq, status_of_canStart can, ?_, ?_⟩
    · rw [ended.status, if_pos rfl]
      exact isTerminal_outcomeStatus a.success
    · intro id elsewhere
      rw [ended.status, if_neg elsewhere]
  · intro r' stays
    have same := step_eq_self (congrArg Prod.snd stays)
    rw [stays] at same
    exact same

def twins : Scenario :=
  { quests := [{ id := "twin" }, { id := "twin", title := "again" }], dialogues := [],
    characters := [], style := .aggressive }

def twinsAtStart : Run := start twins ({} : StartingPlayer).player 60 (.ofSeed 1)

theorem exists_step_twins : ∃ r, step? twins twinsAtStart = some r := by
  apply exists_step (q := { id := "twin" }) List.mem_cons_self
  simp [canStart, twinsAtStart, status_start]

theorem attempted_twins {stamp : Stamp} {t : Transcript}
    (played : twins.play {} { seed := some 1 } {} { stamp } = .ok t) : 0 < t.attempted := by
  obtain ⟨r, next⟩ := exists_step_twins
  rw [Scenario.play_eq_ok played, Transcript.attempted_ofRun]
  exact attempted_toEnd_pos (by decide) rfl rfl next

theorem twins_end_once : ∃ r, Reaches twins twinsAtStart r ∧
    r.attempted = 1 ∧ (r.ended twins).card = 1 ∧ step twins r = (r, false) := by
  have named : ∀ q ∈ twins.quests, q.id = "twin" := by decide
  obtain ⟨r, next⟩ := exists_step_twins
  have reached : Reaches twins twinsAtStart r := Reaches.tail .refl next
  obtain ⟨q, hq, _, a, ended⟩ := step_ends next
  obtain ⟨between, _, _, _⟩ := quests_end_once twins {} 60 (.ofSeed 1) reached
  have once : r.attempted = 1 := ended.attempted
  refine ⟨r, reached, once, between.attempts.symm.trans once, ?_⟩
  -- the other record shares the identifier, so it has come to its end as well
  rcases step_cases twins r with ⟨stays, _⟩ | ⟨again, hagain, can, _⟩
  · exact stays
  · have same : again.id = q.id := (named again hagain).trans (named q hq).symm
    exact absurd (status_of_canStart can) (same ▸ ended.not_waiting)

end Run

/-- Where anything was attempted, some quest did not end where it began. -/
theorem Scenario.Yields.exists_ended {s : Scenario} {t : Transcript} (told : s.Yields t)
    (some_played : 0 < t.attempted) :
    ∃ id, t.initial.status id = .notStarted ∧ (t.final.status id).isTerminal = true := by
  obtain ⟨o, minutes, source, stamp, labels, seed, r, termination, reached, rfl⟩ := told
  obtain ⟨id, finished⟩ := reached.betweenSteps.exists_ended some_played
  exact ⟨id, Run.status_start s o minutes source id, finished⟩

end Storyline

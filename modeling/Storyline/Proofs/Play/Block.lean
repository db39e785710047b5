import Mathlib.Data.List.Forall2
import Storyline.Proofs.Play.Balance
import Storyline.Proofs.Play.Lifecycle

/-!
What one attempt at a quest adds to the log: a block of events, the first part stamped with the
time when the attempt begins, the rest with the time when it ends. The block tells all that the
attempt does to the ledger.
-/
namespace Storyline

structure Block where
  begun : Event
  moves : List Event
  lines : List Event
  ended : Event
  changes : List Event
  shifts : List Event

namespace Block

def opening (b : Block) : List Event := b.begun :: (b.moves ++ b.lines)

def closing (b : Block) : List Event := b.ended :: (b.changes ++ b.shifts)

def events (b : Block) : List Event := b.opening ++ b.closing

end Block

def EventKind.IsChange (k : EventKind) : Prop :=
  k ∈ [statChange, itemGain, itemLoss, flagSet, reputationChange]

theorem EventKind.IsChange.ne_alignmentChange {k : EventKind} (h : k.IsChange) :
    k ≠ .alignmentChange := by
  rintro rfl
  simp [IsChange] at h

theorem EventKind.IsChange.ne_quest {k : EventKind} (h : k.IsChange) :
    k ≠ .questStart ∧ k ≠ .questComplete := by
  constructor
  · rintro rfl
    simp [IsChange] at h
  · rintro rfl
    simp [IsChange] at h

def Scenario.linesFor (s : Scenario) (p : Player) (q : Quest) : List Dialogue :=
  s.dialogues.filter fun d => d.quest = some q.id ∧ ∀ c ∈ d.conditions, p.meets c = true

def Player.arrivedAt (p : Player) (q : Quest) : Player :=
  { p.setStatus q.id .inProgress with
    currentQuest := some q.id
    location := q.location.getD p.location }

structure Block.TellsOf (b : Block) (s : Scenario) (p : Player) (q : Quest) (start finish : Nat) :
    Prop where
  begun : b.begun.kind = .questStart ∧ b.begun.data.field? "quest_id" = some (.string q.id)
  moves : b.moves.length ≤ 1 ∧ ∀ e ∈ b.moves, e.kind = .locationChange
  lines : List.Forall₂
    (fun d e => e.kind = .dialogue ∧ e.data.field? "dialogue_id" = some (.string d.id))
    (s.linesFor (p.arrivedAt q) q) b.lines
  ended : b.ended.kind = .questComplete ∧ b.ended.data.field? "quest_id" = some (.string q.id)
  changes : ∀ e ∈ b.changes, e.kind.IsChange
  failure : b.ended.data.field? "success" ≠ some (.bool true) → b.changes = []
  shifts : b.shifts.length ≤ 1 ∧ ∀ e ∈ b.shifts, e.kind = .alignmentChange
  opening : ∀ e ∈ b.opening, e.timestamp = start
  closing : ∀ e ∈ b.closing, e.timestamp = finish

theorem Event.forall_dialogue {ds : List Dialogue} {lines : List Event}
    (spoken : List.Forall₂
      (fun d e => e.kind = .dialogue ∧ e.data.field? "dialogue_id" = some (.string d.id)) ds lines) :
    ∀ e ∈ lines, e.kind = .dialogue := by
  induction spoken with
  | nil => simp
  | cons line _ ih => exact List.forall_mem_cons.2 ⟨line.1, ih⟩

theorem Block.TellsOf.kind_of_mem_lines {b : Block} {s : Scenario} {p : Player} {q : Quest}
    {start finish : Nat} (h : b.TellsOf s p q start finish) :
    ∀ e ∈ b.lines, e.kind = .dialogue :=
  Event.forall_dialogue h.lines

namespace Run

theorem player_travel (r : Run) (q : Quest) (time : Nat) :
    ((r.begin q time).travel q time).player = r.player.arrivedAt q := by
  unfold travel
  cases location : q.location with
  | none => simp [Player.arrivedAt, begin, emit, location, Player.setStatus]
  | some place =>
    simp only [travelTo]
    split
    · rename_i here
      simp [Player.arrivedAt, begin, emit, location, Player.setStatus, here]
    · simp [Player.arrivedAt, begin, emit, withPlayer, location, Player.setStatus]

theorem speak_eq (s : Scenario) (r : Run) (q : Quest) (time : Nat) :
    speak s r q time = (s.linesFor r.player q).foldl (speakLine s time) r := by
  unfold speak Scenario.linesFor
  congr 1
  apply List.filter_congr
  intro d _
  rw [isSpoken, Bool.eq_iff_iff]
  simp

/-- A stage of an attempt adds events, which tell what it does to the ledger of a player in balance.
The status of the quest is settled apart, so it may be any here. -/
structure Writes (r : Run) (es : List Event) (r' : Run) : Prop where
  log : r'.log = es.foldl EventLog.push r.log
  account : r.player.Balanced → r'.player.Balanced ∧ ∀ status,
    Ledger.Follows { r.player.ledger with status } es { r'.player.ledger with status }

namespace Writes

variable {r r' r'' : Run} {es es' : List Event}

theorem trans (first : Writes r es r') (rest : Writes r' es' r'') : Writes r (es ++ es') r'' where
  log := by rw [rest.log, first.log, List.foldl_append]
  account balanced := by
    obtain ⟨middle, told⟩ := first.account balanced
    obtain ⟨last, told'⟩ := rest.account middle
    exact ⟨last, fun status => (told status).append (told' status)⟩

theorem nothing (log : r'.log = r.log)
    (ledger : ∀ status, { r'.player.ledger with status } = { r.player.ledger with status }) :
    Writes r [] r' where
  log := log
  account balanced := ⟨balanced.congr (ledger r.player.status), fun status =>
    .of_eq (ledger status).symm⟩

theorem aside {e : Event} (log : r'.log = r.log.push e) (read : e.account? = some .aside)
    (ledger : ∀ status, { r'.player.ledger with status } = { r.player.ledger with status }) :
    Writes r [e] r' where
  log := log
  account balanced := ⟨balanced.congr (ledger r.player.status), fun status =>
    .single read trivial (ledger status).symm⟩

theorem foldl {α : Type} {P : Event → Prop} {f : Run → α → Run}
    (each : ∀ r a, ∃ es, Writes r es (f r a) ∧ ∀ e ∈ es, P e) (l : List α) (r : Run) :
    ∃ es, Writes r es (l.foldl f r) ∧ ∀ e ∈ es, P e := by
  induction l generalizing r with
  | nil => exact ⟨[], .nothing rfl fun _ => rfl, by simp⟩
  | cons a l ih =>
    obtain ⟨es, writes, all⟩ := each r a
    obtain ⟨es', writes', all'⟩ := ih (f r a)
    refine ⟨es ++ es', writes.trans writes', ?_⟩
    intro e he
    rcases List.mem_append.1 he with he | he
    · exact all e he
    · exact all' e he

theorem begin (r : Run) (q : Quest) (time : Nat) :
    ∃ e, Writes r [e] (r.begin q time) ∧ e.timestamp = time ∧ e.kind = .questStart ∧
      e.data.field? "quest_id" = some (.string q.id) :=
  ⟨_, aside rfl rfl fun _ => rfl, rfl, rfl, rfl⟩

theorem travelTo (r : Run) (place : String) (time : Nat) :
    ∃ es, Writes r es (r.travelTo place time) ∧ es.length ≤ 1 ∧
      ∀ e ∈ es, e.timestamp = time ∧ e.kind = .locationChange := by
  unfold Run.travelTo
  dsimp only
  split
  · exact ⟨[], .nothing rfl fun _ => rfl, by simp, by simp⟩
  · rename_i elsewhere
    refine ⟨[_], ⟨rfl, fun balanced => ?_⟩, by simp, ?_⟩
    · exact ⟨⟨balanced.standing, balanced.alignment⟩,
        fun _ => .single rfl ⟨rfl, elsewhere⟩ rfl⟩
    · intro e he
      cases List.mem_singleton.1 he
      exact ⟨rfl, rfl⟩

theorem travel (r : Run) (q : Quest) (time : Nat) :
    ∃ es, Writes r es (r.travel q time) ∧ es.length ≤ 1 ∧
      ∀ e ∈ es, e.timestamp = time ∧ e.kind = .locationChange := by
  unfold Run.travel
  split
  · exact travelTo r _ time
  · exact ⟨[], .nothing rfl fun _ => rfl, by simp, by simp⟩

theorem lines (s : Scenario) (time : Nat) (l : List Dialogue) (r : Run) :
    Writes r (l.map (lineEvent s time)) (l.foldl (speakLine s time) r) := by
  induction l generalizing r with
  | nil => exact .nothing rfl fun _ => rfl
  | cons d l ih =>
    have line : Writes r [lineEvent s time d] (speakLine s time r d) :=
      aside rfl rfl fun _ => rfl
    exact line.trans (ih _)

theorem record (r : Run) (time : Nat) {changed : Player × Option Change}
    (told : r.player.Accounts changed) :
    ∃ es, Writes r es (r.record time changed) ∧
      ∀ e ∈ es, e.timestamp = time ∧ e.kind.IsChange := by
  obtain ⟨p, change⟩ := changed
  cases change with
  | none => exact ⟨[], ⟨rfl, told time⟩, by simp⟩
  | some change =>
    refine ⟨[changeEvent p time change], ⟨rfl, told time⟩, ?_⟩
    intro e he
    cases List.mem_singleton.1 he
    cases change <;> exact ⟨rfl, by simp [EventKind.IsChange, changeEvent]⟩

theorem levelUp (r : Run) (time : Nat) :
    ∃ es, Writes r es (r.levelUp time) ∧ ∀ e ∈ es, e.timestamp = time ∧ e.kind.IsChange := by
  have same := r.player.ledger_updateLevel
  unfold Run.levelUp
  split
  · rename_i p raised
    rw [raised] at same
    exact ⟨[], .nothing rfl fun status => congrArg ({ · with status }) same, by simp⟩
  · rename_i p old new raised
    rw [raised] at same
    refine ⟨[_], aside rfl rfl fun status => congrArg ({ · with status }) same, ?_⟩
    intro e he
    cases List.mem_singleton.1 he
    exact ⟨rfl, by simp [EventKind.IsChange]⟩

theorem grants (s : Scenario) (r : Run) (q : Quest) (a : Attempt) (time : Nat) :
    ∃ es, Writes r es ((q.reputationDeltas s.characters).entries.foldl (creditFaction time)
        ((a.rewards.foldl (reward time) r).levelUp time)) ∧
      ∀ e ∈ es, e.timestamp = time ∧ e.kind.IsChange := by
  have granted : ∀ r w, ∃ es, Writes r es (reward time r w) ∧
      ∀ e ∈ es, e.timestamp = time ∧ e.kind.IsChange :=
    fun r w => record r time (r.player.accounts_applyReward w)
  have credited : ∀ r w, ∃ es, Writes r es (creditFaction time r w) ∧
      ∀ e ∈ es, e.timestamp = time ∧ e.kind.IsChange :=
    fun r w => record r time (r.player.accounts_adjustReputation w.1 w.2)
  obtain ⟨first, rewarded, here⟩ := foldl granted a.rewards r
  obtain ⟨second, raised, there⟩ := levelUp (a.rewards.foldl (reward time) r) time
  obtain ⟨third, spread, last⟩ := foldl credited (q.reputationDeltas s.characters).entries
    ((a.rewards.foldl (reward time) r).levelUp time)
  refine ⟨first ++ second ++ third, (rewarded.trans raised).trans spread, ?_⟩
  intro e he
  simp only [List.mem_append] at he
  rcases he with (he | he) | he
  · exact here e he
  · exact there e he
  · exact last e he

theorem judge (r : Run) (q : Quest) (a : Attempt) (time : Nat) :
    ∃ es, Writes r es (r.judge q a time) ∧ es.length ≤ 1 ∧
      ∀ e ∈ es, e.timestamp = time ∧ e.kind = .alignmentChange := by
  unfold Run.judge
  dsimp only
  split
  · exact ⟨[], .nothing rfl fun _ => rfl, by simp, by simp⟩
  · -- the shift need not show: the shares may come out as they were
    generalize alignmentDelta q.type a.choices = delta
    have after : (r.player.shiftAlignment delta).alignment.IsNormalized :=
      Alignment.isNormalized_renormalize _
    have shifted (balanced : r.player.Balanced) : (r.player.shiftAlignment delta).Balanced :=
      ⟨balanced.standing, after⟩
    split
    · rename_i same
      refine ⟨[], ⟨rfl, fun balanced => ⟨shifted balanced, fun status => .of_eq ?_⟩⟩, by simp,
        by simp⟩
      have unmoved := Alignment.eq_of_isZero_diff after balanced.alignment same
      exact Ledger.ext rfl rfl unmoved.symm rfl rfl rfl
    · rename_i moved
      refine ⟨[_], ⟨rfl, fun balanced => ⟨shifted balanced, fun status => ?_⟩⟩, by simp, ?_⟩
      · exact .turn balanced.alignment after moved rfl rfl
      · intro e he
        cases List.mem_singleton.1 he
        exact ⟨rfl, rfl⟩

theorem arrive (s : Scenario) (r : Run) (q : Quest) :
    ∃ begun moves lines, Writes r (begun :: (moves ++ lines)) (Run.arrive s r q) ∧
      (begun.kind = .questStart ∧ begun.data.field? "quest_id" = some (.string q.id)) ∧
      (moves.length ≤ 1 ∧ ∀ e ∈ moves, e.kind = .locationChange) ∧
      List.Forall₂ (fun d e => e.kind = .dialogue ∧
        e.data.field? "dialogue_id" = some (.string d.id))
        (s.linesFor (r.player.arrivedAt q) q) lines ∧
      ∀ e ∈ begun :: (moves ++ lines), e.timestamp = r.clock.elapsed := by
  obtain ⟨begun, began, startTime, kind, named⟩ := begin r q r.clock.elapsed
  obtain ⟨moves, moved, few, travels⟩ := travel (r.begin q r.clock.elapsed) q r.clock.elapsed
  have spoken := lines s r.clock.elapsed (s.linesFor (r.player.arrivedAt q) q)
    ((r.begin q r.clock.elapsed).travel q r.clock.elapsed)
  rw [← player_travel r q r.clock.elapsed, ← speak_eq] at spoken
  refine ⟨begun, moves, _, (began.trans moved).trans spoken, ⟨kind, named⟩,
    ⟨few, fun e he => (travels e he).2⟩, ?_, ?_⟩
  · rw [player_travel, List.forall₂_map_right_iff, List.forall₂_same]
    exact fun d _ => ⟨rfl, rfl⟩
  · intro e he
    rcases List.mem_cons.1 he with rfl | he
    · exact startTime
    · rcases List.mem_append.1 he with he | he
      · exact (travels e he).1
      · obtain ⟨d, _, rfl⟩ := List.mem_map.1 he
        rfl

theorem ending (p : Player) (q : Quest) (a : Attempt) (time : Nat) (reached : QuestStatus)
    (balanced : p.Balanced) : (p.setStatus q.id reached).Balanced ∧ ∀ status,
      Ledger.Follows { p.ledger with status } [endEvent q a time]
        { (p.setStatus q.id reached).ledger with
          status := Function.update status q.id (outcomeStatus a.success) } :=
  ⟨⟨balanced.standing, balanced.alignment⟩, fun _ => .single rfl trivial rfl⟩

theorem settle (s : Scenario) (r : Run) (q : Quest) (a : Attempt) (time : Nat) :
    ∃ changes, (Run.settle s r q a time).log =
        (endEvent q a time :: changes).foldl EventLog.push r.log ∧
      (r.player.Balanced → (Run.settle s r q a time).player.Balanced ∧ ∀ status,
        Ledger.Follows { r.player.ledger with status } (endEvent q a time :: changes)
          { (Run.settle s r q a time).player.ledger with
            status := Function.update status q.id (outcomeStatus a.success) }) ∧
      (a.success = false → changes = []) ∧
      ∀ e ∈ changes, e.timestamp = time ∧ e.kind.IsChange := by
  unfold Run.settle
  cases success : a.success with
  | false =>
    have account := ending r.player q a time .failed
    rw [success] at account
    exact ⟨[], rfl, account, fun _ => rfl, by simp⟩
  | true =>
    have account := ending r.player q a time .completed
    rw [success] at account
    obtain ⟨changes, granted, all⟩ := grants s (emit { r with
      completed := r.completed + 1
      player := r.player.setStatus q.id .completed } (endEvent q a time)) q a time
    refine ⟨changes, granted.log, ?_, by simp, all⟩
    intro balanced
    obtain ⟨finished, told⟩ := account balanced
    obtain ⟨last, told'⟩ := granted.account finished
    exact ⟨last, fun status => (told status).append (told' _)⟩

end Writes

theorem success_endEvent (q : Quest) (a : Attempt) (time : Nat) :
    (endEvent q a time).data.field? "success" = some (.bool a.success) := rfl

/-- The run at the end is a variable here, so that nothing unfolds the draws of the attempt. -/
theorem exists_block_of_eq {s : Scenario} {r last : Run} {q : Quest} {a : Attempt}
    {source : Random.Source} {time : Nat}
    (played : last = ((settle s { arrive s r q with source } q a time).judge q a time).close a)
    (status : last.player.status =
      Function.update r.player.status q.id (outcomeStatus a.success)) :
    ∃ b : Block, b.TellsOf s r.player q r.clock.elapsed time ∧
      b.ended.data.field? "success" = some (.bool a.success) ∧
      last.log = b.events.foldl EventLog.push r.log ∧
      (r.player.Balanced → last.player.Balanced ∧
        r.player.ledger.Follows b.events last.player.ledger) := by
  obtain ⟨begun, moves, lines, arrived, start, travels, spoken, opening⟩ := Writes.arrive s r q
  generalize arrive s r q = there at arrived played
  obtain ⟨changes, log, account, failure, all⟩ := Writes.settle s { there with source } q a time
  generalize settle s { there with source } q a time = settled at log account played
  obtain ⟨shifts, judged, few, turns⟩ := Writes.judge settled q a time
  refine ⟨⟨begun, moves, lines, endEvent q a time, changes, shifts⟩, ?_, success_endEvent .., ?_,
    ?_⟩
  · refine ⟨start, travels, spoken, ⟨rfl, rfl⟩, fun e he => (all e he).2, ?_,
      ⟨few, fun e he => (turns e he).2⟩, opening, ?_⟩
    · intro unsuccessful
      apply failure
      cases success : a.success with
      | false => rfl
      | true => exact absurd (by rw [success_endEvent, success]) unsuccessful
    · intro e he
      rcases List.mem_cons.1 he with rfl | he
      · rfl
      · rcases List.mem_append.1 he with he | he
        · exact (all e he).1
        · exact (turns e he).1
  · have shifted : last.log = (settled.judge q a time).log := by
      rw [played]
      rfl
    rw [shifted, judged.log, log, arrived.log, ← List.foldl_append, ← List.foldl_append]
    rfl
  · intro balanced
    -- up to the end of the quest its status does not matter, so the one before it was begun will do
    obtain ⟨here, told⟩ := arrived.account balanced
    obtain ⟨finished, told'⟩ := account here
    obtain ⟨final, told''⟩ := judged.account finished
    have closed : last.player.ledger = { (settled.judge q a time).player.ledger with
        status := Function.update r.player.status q.id (outcomeStatus a.success) } := by
      rw [← status, played]
      rfl
    rw [closed]
    refine ⟨?_, (told r.player.status).append ((told' r.player.status).append (told'' _))⟩
    rw [played]
    exact ⟨final.standing, final.alignment⟩

theorem exists_block (s : Scenario) (r : Run) (q : Quest) :
    ∃ b : Block, b.TellsOf s r.player q r.clock.elapsed
        (r.clock.elapsed + (attemptAt s r q).1.seconds) ∧
      b.ended.data.field? "success" = some (.bool (attemptAt s r q).1.success) ∧
      (play s r q).log = b.events.foldl EventLog.push r.log ∧
      (r.player.Balanced → (play s r q).player.Balanced ∧
        r.player.ledger.Follows b.events (play s r q).player.ledger) := by
  apply exists_block_of_eq (play_eq s r q)
  funext id
  rw [(play_ends s r q).status, Function.update_apply]

end Run

end Storyline

import Mathlib.Data.List.Range
import Storyline.Proofs.Play.Duration
import Storyline.Proofs.Play.Replay

/-!
The log of a run as a row of blocks, one for each attempt. The first begins at zero, each of the
others at the time when the one before it ends, so that timestamps never decrease. This holds as
long as the clock has not come to its last word; runs of quests of permitted length end before.
-/
namespace Storyline

namespace EventLog

theorem map_id_numbered (es : List Event) :
    (numbered es).map (·.id) = List.range' 1 (numbered es).length := by
  apply List.ext_getElem
  · simp
  · intro i here there
    simp [numbered, Nat.add_comm]

end EventLog

namespace Block

variable {b : Block} {s : Scenario} {p : Player} {q : Quest} {start finish : Nat}

theorem TellsOf.timestamp_cases (h : b.TellsOf s p q start finish) {e : Event}
    (he : e ∈ b.events) : e.timestamp = start ∨ e.timestamp = finish := by
  rcases List.mem_append.1 he with opens | closes
  · exact .inl (h.opening e opens)
  · exact .inr (h.closing e closes)

theorem TellsOf.ordered (h : b.TellsOf s p q start finish) (forward : start ≤ finish) :
    b.events.Pairwise fun e e' => e.timestamp ≤ e'.timestamp := by
  rw [events, List.pairwise_append]
  refine ⟨?_, ?_, ?_⟩
  · exact List.pairwise_of_forall_mem_list fun e he e' he' => by
      rw [h.opening e he, h.opening e' he']
  · exact List.pairwise_of_forall_mem_list fun e he e' he' => by
      rw [h.closing e he, h.closing e' he']
  · intro e he e' he'
    rw [h.opening e he, h.closing e' he']
    exact forward

end Block

namespace Run

variable {s : Scenario} {first r r' : Run} {blocks : List Block}

/-- The blocks of the attempts that lead from one run to another. Each tells of the quest that is
picked, from the time when the attempt begins to the time when it ends. -/
inductive Chronicle (s : Scenario) (first : Run) : List Block → Run → Prop where
  | nil : Chronicle s first [] first
  | attempt {blocks : List Block} {r r' : Run} {q : Quest} {b : Block}
      (before : Chronicle s first blocks r)
      (picked : (pick s r).1 = some q)
      (next : step? s r = some r')
      (tells : b.TellsOf s r.player q r.clock.elapsed r'.clock.elapsed)
      (lasts : r.clock.elapsed + Quest.leastSeconds ≤ r'.clock.elapsed) :
      Chronicle s first (blocks ++ [b]) r'

/-- Up to here no event is later than the clock, and none comes before an earlier one. -/
theorem Chronicle.ordered (h : Chronicle s first blocks r) :
    (∀ e ∈ blocks.flatMap Block.events, e.timestamp ≤ r.clock.elapsed) ∧
    (blocks.flatMap Block.events).Pairwise fun e e' => e.timestamp ≤ e'.timestamp := by
  induction h with
  | nil => simp
  | @attempt blocks r r' q b before picked next tells lasts ih =>
    obtain ⟨past, sorted⟩ := ih
    have forward : r.clock.elapsed ≤ r'.clock.elapsed := by omega
    simp only [List.flatMap_append, List.flatMap_cons, List.flatMap_nil, List.append_nil,
      List.mem_append, List.pairwise_append]
    refine ⟨?_, sorted, tells.ordered forward, ?_⟩
    · rintro e (he | he)
      · exact (past e he).trans forward
      · rcases tells.timestamp_cases he with time | time <;> omega
    · intro e he e' he'
      have earlier := past e he
      rcases tells.timestamp_cases he' with time | time <;> omega

theorem Reaches.exists_chronicle (reached : Reaches s first r)
    (inTime : r.clock.elapsed < Bounded.greatestWord) :
    ∃ blocks, Chronicle s first blocks r ∧
      r.log = (blocks.flatMap Block.events).foldl EventLog.push first.log ∧
      r.attempted = first.attempted + blocks.length := by
  revert inTime
  refine reached.preserves (P := fun r => r.clock.elapsed < Bounded.greatestWord →
    ∃ blocks, Chronicle s first blocks r ∧
      r.log = (blocks.flatMap Block.events).foldl EventLog.push first.log ∧
      r.attempted = first.attempted + blocks.length) ?_ fun _ => ⟨[], .nil, rfl, rfl⟩
  intro r r' next ih inTime
  obtain ⟨q, _, picked, a, ended, b, tells, _, logged, _⟩ := step_block next
  have moved := ended.elapsed_eq inTime
  have least := ended.leastSeconds_le
  -- the clock only moves forward, so it was in time before the step as well
  obtain ⟨blocks, before, log, counted⟩ := ih (by omega)
  rw [← moved] at tells
  refine ⟨blocks ++ [b], before.attempt picked next tells (by omega), ?_, ?_⟩
  · rw [logged, log, List.flatMap_append, List.foldl_append]
    simp
  · rw [ended.attempted, counted, List.length_append]
    rfl

end Run

/-- The log of a scenario that is played to its end, with quests of permitted length, is a row of
blocks, one for each attempt, that begins at zero and in which each block follows on the one before
it. Its events are numbered from one without gaps, and their timestamps never decrease. -/
theorem Scenario.log_chronicles {s : Scenario} {o : StartingPlayer} {settings : RunSettings}
    {labels : RunLabels} {c : Circumstances} {t : Transcript}
    (permitted : ∀ q ∈ s.quests, q.minutes ≤ Quest.greatestMinutes)
    (limited : settings.maxMinutes ≤ Quest.greatestMinutes)
    (played : s.play o settings labels c = .ok t) :
    ∃ first blocks last, Run.Chronicle s first blocks last ∧
      (first.clock.elapsed = 0 ∧ first.player = t.initial) ∧
      (last.clock.elapsed = t.seconds ∧ last.player = t.final) ∧
      blocks.length = t.attempted ∧
      t.events = EventLog.numbered (blocks.flatMap Block.events) ∧
      t.events.map (·.id) = List.range' 1 t.events.length ∧
      (t.events.map (·.timestamp)).Pairwise (· ≤ ·) := by
  have transcript := play_eq_ok played
  dsimp only at transcript
  -- the runs at both ends go in as variables, so that nothing unfolds a step
  generalize start : Run.start s o.player settings.maxMinutes
    (.ofSeed (settings.seed.getD c.freshSeed)) = first at transcript
  have clock : first.clock = .ofMinutes settings.maxMinutes := start ▸ rfl
  have log : first.log = {} := start ▸ rfl
  have untouched : first.attempted = 0 := start ▸ rfl
  have inTime := Run.inTime_toEnd permitted (by rw [clock]; exact Nat.mul_le_mul_right 60 limited)
    (settings.hasExpired c.realSeconds) (by rw [clock]; rfl)
  have reached := Run.reaches_toEnd s (settings.hasExpired c.realSeconds) first
  generalize Run.toEnd s (settings.hasExpired c.realSeconds) first = last
    at transcript inTime reached
  obtain ⟨blocks, told, written, counted⟩ := reached.exists_chronicle inTime
  have events : t.events = EventLog.numbered (blocks.flatMap Block.events) := by
    have kept : t.events = last.1.log.events.toList := transcript ▸ rfl
    rw [kept, written, log, EventLog.toList_foldl_push_empty]
  have attempted : t.attempted = last.1.attempted := transcript ▸ rfl
  refine ⟨first, blocks, last.1, told, ⟨by rw [clock]; rfl, transcript ▸ rfl⟩,
    ⟨transcript ▸ rfl, transcript ▸ rfl⟩, by omega, events, ?_, ?_⟩
  · rw [events]
    exact EventLog.map_id_numbered _
  · rw [events, EventLog.map_numbered fun _ _ => rfl, List.pairwise_map]
    exact told.ordered.2

theorem Scenario.twins_chronicle : ∃ t,
    Run.twins.play {} { seed := some 1 } {} { stamp := ⟨⟨0⟩, ⟨0, 0⟩⟩ } = .ok t ∧
    ∃ first blocks last, Run.Chronicle Run.twins first blocks last ∧ blocks ≠ [] ∧
      t.events = EventLog.numbered (blocks.flatMap Block.events) ∧
      (t.events.map (·.timestamp)).Pairwise (· ≤ ·) := by
  obtain ⟨t, played⟩ := exists_play (s := Run.twins) rfl {} { seed := some 1 } {}
    { stamp := ⟨⟨0⟩, ⟨0, 0⟩⟩ }
  have permitted : ∀ q ∈ Run.twins.quests, q.minutes ≤ Quest.greatestMinutes := by decide
  obtain ⟨first, blocks, last, told, _, _, counted, events, _, sorted⟩ :=
    log_chronicles permitted (by decide) played
  refine ⟨t, played, first, blocks, last, told, ?_, events, sorted⟩
  have attempted := Run.attempted_twins played
  rintro rfl
  exact absurd counted (Nat.ne_of_lt attempted)

end Storyline

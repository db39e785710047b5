import Mathlib.Algebra.Ring.Int.Defs
import Storyline.Proofs.Play.Chronicle

/-!
The figures of a transcript, read off its log: how many quests were attempted and how they came out,
how long that took, and what the shifts of standing add up to. A run counts quests and time apart
from the log, and the changes are taken from the players at both ends; so all of this is proved over
the run. Experience is left out, since the log does not tell all that happens to it.
-/
namespace Storyline

namespace Event

def endsQuest (success : Bool) (e : Event) : Bool :=
  e.kind = .questComplete && e.field? "success" Json.flag? = some success

def shiftsStanding (faction : String) (e : Event) : Bool :=
  e.kind = .reputationChange && e.field? "faction" Json.text? = some faction

end Event

def EventLog.lastTime (es : List Event) : Nat := (es.getLast?.map (·.timestamp)).getD 0

structure Transcript.FiguresAgree (t : Transcript) : Prop where
  attempted : t.attempted = t.events.countP (·.kind = .questStart)
  completed : t.completed = t.events.countP (·.endsQuest true)
  failed : t.failed = t.events.countP (·.endsQuest false)
  reputation (faction : String) : t.reputationChanges.get? faction =
    if t.final.standing faction = t.initial.standing faction then none
    else some (t.final.standing faction - t.initial.standing faction)
  shifts (faction : String) : ∃ deltas : List Int,
    (t.events.filter (·.shiftsStanding faction)).mapM (·.field? "delta" Json.integer?) =
      some deltas ∧
    t.final.standing faction - t.initial.standing faction = deltas.sum
  limits (faction : String) : -200 ≤ t.final.standing faction - t.initial.standing faction ∧
    t.final.standing faction - t.initial.standing faction ≤ 200
  alignment : t.alignmentChanges.good + t.alignmentChanges.neutral + t.alignmentChanges.evil = 0

/-! Quests. -/

theorem EventLog.countP_foldl_push {test : Event → Bool}
    (blind : ∀ (e : Event) (n : Nat), test { e with id := n } = test e) (log : EventLog)
    (es : List Event) : (es.foldl push log).events.toList.countP test =
      log.events.toList.countP test + es.countP test := by
  have seen := congrArg (List.countP id) (map_foldl_push blind log es)
  rw [List.countP_append, List.countP_map, List.countP_map, List.countP_map] at seen
  exact seen

namespace Block

variable {b : Block} {s : Scenario} {p : Player} {q : Quest} {start finish : Nat}

/-- Only the first event of a block and the one that ends the quest are about the quest. -/
theorem TellsOf.countP_eq (h : b.TellsOf s p q start finish) {test : Event → Bool}
    (only : ∀ e, test e = true → e.kind = .questStart ∨ e.kind = .questComplete) :
    b.events.countP test = [b.begun, b.ended].countP test := by
  have aside {l : List Event} (other : ∀ e ∈ l, e.kind ≠ .questStart ∧ e.kind ≠ .questComplete) :
      l.countP test = 0 := by
    refine List.countP_eq_zero.2 fun e he passes => ?_
    rcases only e passes with kind | kind
    · exact (other e he).1 kind
    · exact (other e he).2 kind
  have moves : b.moves.countP test = 0 := aside fun e he => by simp [h.moves.2 e he]
  have lines : b.lines.countP test = 0 := aside fun e he => by simp [h.kind_of_mem_lines e he]
  have changes : b.changes.countP test = 0 := aside fun e he => (h.changes e he).ne_quest
  have shifts : b.shifts.countP test = 0 := aside fun e he => by simp [h.shifts.2 e he]
  simp only [events, Block.opening, Block.closing, List.countP_append, List.countP_cons,
    List.countP_nil, moves, lines, changes, shifts]
  omega

end Block

namespace Run

structure Counted (r : Run) : Prop where
  attempted : r.attempted = r.log.events.toList.countP (·.kind = .questStart)
  completed : r.completed = r.log.events.toList.countP (·.endsQuest true)
  failed : r.failed = r.log.events.toList.countP (·.endsQuest false)

variable {s : Scenario} {r r' : Run}

theorem Counted.step (h : Counted r) (next : step? s r = some r') : Counted r' := by
  obtain ⟨q, _, _, a, ended, b, tells, success, logged, _⟩ := step_block next
  have read : b.ended.field? "success" Json.flag? = some a.success :=
    Event.field?_flag_eq_some_iff.2 success
  have ends (reached : Bool) : b.events.countP (·.endsQuest reached) =
      if a.success = reached then 1 else 0 := by
    rw [tells.countP_eq fun e passes => .inr (by simp_all [Event.endsQuest])]
    simp [Event.endsQuest, tells.begun.1, tells.ended.1, read, List.countP_cons]
  constructor
  · rw [ended.attempted, logged, EventLog.countP_foldl_push fun _ _ => rfl, ← h.attempted,
      tells.countP_eq fun e passes => .inl (by simpa using passes)]
    simp [tells.begun.1, tells.ended.1]
  · rw [ended.completed, logged, EventLog.countP_foldl_push fun _ _ => rfl, ← h.completed, ends]
  · rw [ended.failed, logged, EventLog.countP_foldl_push fun _ _ => rfl, ← h.failed, ends]
    cases a.success <;> rfl

theorem Reaches.counted (reached : Reaches s r r') (h : Counted r) : Counted r' :=
  reached.preserves (fun _ _ next counted => counted.step next) h

/-! Time. -/

theorem Reaches.lastTime_eq (reached : Reaches s r r')
    (first : EventLog.lastTime r.log.events.toList = r.clock.elapsed)
    (inTime : r'.clock.elapsed < Bounded.greatestWord) :
    EventLog.lastTime r'.log.events.toList = r'.clock.elapsed := by
  revert inTime
  refine reached.preserves (P := fun r => r.clock.elapsed < Bounded.greatestWord →
    EventLog.lastTime r.log.events.toList = r.clock.elapsed) ?_ fun _ => first
  intro m m' next _ inTime
  -- whatever was logged before, the block of the attempt closes with its end
  obtain ⟨q, _, _, a, ended, b, tells, _, logged, _⟩ := step_block next
  have timestamps : m'.log.events.toList.map (·.timestamp) =
      m.log.events.toList.map (·.timestamp) ++ b.events.map (·.timestamp) := by
    rw [logged, EventLog.map_foldl_push fun _ _ => rfl]
  obtain ⟨e, last⟩ : ∃ e, b.closing.getLast? = some e := ⟨_, List.getLast?_cons⟩
  have finish := tells.closing e (List.mem_of_getLast? last)
  rw [EventLog.lastTime, ← List.getLast?_map, timestamps, Block.events, List.map_append,
    List.getLast?_append, List.getLast?_append, List.getLast?_map, last, Option.map_some, finish,
    ended.elapsed_eq inTime]
  rfl

end Run

/-! Standing. -/

namespace Ledger

theorem standing_of_account? {e : Event} {n : Entry} (read : e.account? = some n) (l : Ledger)
    (faction : String) :
    e.shiftsStanding faction = false ∧ (l.enter n).standing faction = l.standing faction ∨
    e.shiftsStanding faction = true ∧ ∃ delta, e.field? "delta" Json.integer? = some delta ∧
      (l.enter n).standing faction = l.standing faction + delta := by
  by_cases kind : e.kind = .reputationChange
  · simp only [Event.account?, kind, Option.pure_def, Option.bind_eq_bind, Option.bind_eq_some_iff,
      Option.some.injEq] at read
    obtain ⟨other, named, delta, shifted, standing, _, rfl⟩ := read
    by_cases here : other = faction
    · subst here
      exact .inr ⟨by simp [Event.shiftsStanding, kind, named], delta, shifted, by simp [enter]⟩
    · refine .inl ⟨by simp [Event.shiftsStanding, named, here], ?_⟩
      simp [enter, Function.update_of_ne (Ne.symm here)]
  · refine .inl ⟨by simp [Event.shiftsStanding, kind], ?_⟩
    cases n with
    | stands other delta standing =>
      -- no other kind of event is read as a standing
      exfalso
      unfold Event.account? at read
      split at read <;> simp_all [Option.bind_eq_some_iff]
    | _ => rfl

theorem exists_deltas {es : List Event} {entries : List Entry}
    (read : es.mapM Event.account? = some entries) (l : Ledger) (faction : String) :
    ∃ deltas : List Int,
      (es.filter (·.shiftsStanding faction)).mapM (·.field? "delta" Json.integer?) = some deltas ∧
      (entries.foldl enter l).standing faction = l.standing faction + deltas.sum := by
  induction es generalizing l entries with
  | nil =>
    cases read
    exact ⟨[], rfl, by simp⟩
  | cons e es ih =>
    simp only [List.mapM_cons, Option.pure_def, Option.bind_eq_bind, Option.bind_eq_some_iff,
      Option.some.injEq] at read
    obtain ⟨n, here, rest, there, rfl⟩ := read
    obtain ⟨deltas, seen, sum⟩ := ih there (l.enter n)
    rcases standing_of_account? here l faction with ⟨other, same⟩ | ⟨shifts, delta, shift, moved⟩
    · refine ⟨deltas, by rw [List.filter_cons_of_neg (by simp [other]), seen], ?_⟩
      rw [List.foldl_cons, sum, same]
    · refine ⟨delta :: deltas, ?_, ?_⟩
      · rw [List.filter_cons_of_pos shifts, List.mapM_cons, shift, seen]
        rfl
      · rw [List.foldl_cons, sum, moved, List.sum_cons, Int.add_assoc]

end Ledger

namespace Player

variable {p p' : Player}

theorem standing_of_unknown {faction : String} (unknown : faction ∉ p.reputation.keys) :
    p.standing faction = 0 := by
  rw [SortedMap.mem_keys_iff, Option.not_isSome_iff_eq_none] at unknown
  rw [standing, SortedMap.getD, unknown]
  rfl

theorem Balanced.standing_sub_le (before : p.Balanced) (after : p'.Balanced) (faction : String) :
    -200 ≤ p'.standing faction - p.standing faction ∧
      p'.standing faction - p.standing faction ≤ 200 := by
  have first := before.standing faction
  have last := after.standing faction
  unfold standingLimit at first last
  omega

theorem Balanced.sum_diff (before : p.Balanced) (after : p'.Balanced) :
    (p'.alignment.diff p.alignment).good + (p'.alignment.diff p.alignment).neutral
      + (p'.alignment.diff p.alignment).evil = 0 := by
  have first := before.alignment.total
  have last := after.alignment.total
  rw [Alignment.diff_eq after.alignment before.alignment]
  dsimp only
  omega

end Player

theorem Transcript.get?_reputationDiff (initial final : Player) (faction : String) :
    (reputationDiff initial final).get? faction =
      if final.standing faction = initial.standing faction then none
      else some (final.standing faction - initial.standing faction) := by
  rw [reputationDiff, SortedMap.get?_filter, SortedMap.get?_ofList_map]
  have moved : final.standing faction - initial.standing faction ≠ 0 ↔
      final.standing faction ≠ initial.standing faction := by omega
  by_cases known : faction ∈ initial.reputation.keys ++ final.reputation.keys
  · rw [if_pos known, Option.filter_some]
    split <;> simp_all
  · rw [List.mem_append, not_or] at known
    simp [Player.standing_of_unknown known.1, Player.standing_of_unknown known.2, known]

variable {s : Scenario} {t : Transcript}

theorem Scenario.Yields.figuresAgree (told : s.Yields t) : t.FiguresAgree := by
  obtain ⟨o, minutes, source, stamp, labels, seed, r, termination, reached, rfl⟩ := told
  have counted := reached.counted ⟨rfl, rfl, rfl⟩
  have before := Run.balanced_start s o minutes source
  obtain ⟨entries, read, folded, _⟩ := reached.follows_start
  exact {
    attempted := counted.attempted
    completed := counted.completed
    failed := counted.failed
    reputation := Transcript.get?_reputationDiff _ _
    shifts := fun faction => by
      obtain ⟨deltas, seen, sum⟩ := Ledger.exists_deltas read
        (Run.start s o.player minutes source).player.ledger faction
      refine ⟨deltas, seen, ?_⟩
      rw [folded] at sum
      exact Int.sub_eq_iff_eq_add'.2 sum
    limits := before.standing_sub_le reached.balanced
    alignment := before.sum_diff reached.balanced }

theorem Scenario.Yields.seconds_eq (told : s.Yields t)
    (inTime : t.seconds < Bounded.greatestWord) : t.seconds = EventLog.lastTime t.events := by
  obtain ⟨o, minutes, source, stamp, labels, seed, r, termination, reached, rfl⟩ := told
  exact (reached.lastTime_eq rfl inTime).symm

/-- The figures of a run agree with its log, wherever it was left. The time of the last event does
too, unless the clock has come to its last word; a scenario with quests of permitted length that is
played to its end does not come so far. -/
theorem Scenario.figures_agree (told : s.Yields t) :
    t.FiguresAgree ∧
    (t.seconds < Bounded.greatestWord → t.seconds = EventLog.lastTime t.events) ∧
    ∀ o settings labels c, (∀ q ∈ s.quests, q.minutes ≤ Quest.greatestMinutes) →
      settings.maxMinutes ≤ Quest.greatestMinutes → s.play o settings labels c = .ok t →
      t.seconds < Bounded.greatestWord :=
  ⟨told.figuresAgree, told.seconds_eq, fun _ _ _ _ => seconds_lt_of_play⟩

theorem Scenario.twins_figures : ∃ t,
    Run.twins.play {} { seed := some 1 } {} { stamp := ⟨⟨0⟩, ⟨0, 0⟩⟩ } = .ok t ∧
    t.FiguresAgree ∧ t.seconds = EventLog.lastTime t.events ∧
    0 < t.events.countP (·.kind = .questStart) := by
  obtain ⟨t, played⟩ := exists_play (s := Run.twins) rfl {} { seed := some 1 } {}
    { stamp := ⟨⟨0⟩, ⟨0, 0⟩⟩ }
  have permitted : ∀ q ∈ Run.twins.quests, q.minutes ≤ Quest.greatestMinutes := by decide
  obtain ⟨agree, seconds, inTime⟩ := figures_agree (yields_of_play played)
  refine ⟨t, played, agree, seconds (inTime _ _ _ _ permitted (by decide) played), ?_⟩
  rw [← agree.attempted]
  exact Run.attempted_twins played

end Storyline

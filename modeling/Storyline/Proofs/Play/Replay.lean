import Mathlib.Data.List.Basic
import Storyline.Proofs.Play.Block
import Storyline.Proofs.Play.Progress

/-!
The log of a run told over again. Entered one after the other into the ledger of the player who
started, its events lead to the ledger of the player at the end, and each one is admitted where it
is entered. Nothing is claimed of stats.
-/
namespace Storyline

namespace EventLog

def numbered (es : List Event) : List Event := es.mapIdx fun i e => { e with id := i + 1 }

theorem toList_foldl_push (log : EventLog) (es : List Event) :
    (es.foldl push log).events.toList =
      log.events.toList ++ es.mapIdx fun i e => { e with id := log.events.size + i + 1 } := by
  induction es generalizing log with
  | nil => simp
  | cons e es ih =>
    have shifted : ∀ i, log.events.size + 1 + i + 1 = log.events.size + (i + 1) + 1 := by omega
    rw [List.foldl_cons, ih]
    simp [push, List.mapIdx_cons, shifted]

theorem toList_foldl_push_empty (es : List Event) :
    (es.foldl push {}).events.toList = numbered es := by
  rw [toList_foldl_push]
  simp [numbered]

section Blind

variable {α : Type} {f : Event → α} (blind : ∀ (e : Event) (n : Nat), f { e with id := n } = f e)

include blind

/-- What does not look at numbers sees the events as they were pushed. -/
theorem map_foldl_push (log : EventLog) (es : List Event) :
    (es.foldl push log).events.toList.map f = log.events.toList.map f ++ es.map f := by
  induction es generalizing log with
  | nil => simp
  | cons e es ih =>
    rw [List.foldl_cons, ih]
    simp [push, blind]

theorem map_numbered (es : List Event) : (numbered es).map f = es.map f := by
  rw [← toList_foldl_push_empty, map_foldl_push blind]
  rfl

end Blind

theorem mapM_account?_numbered (es : List Event) :
    (numbered es).mapM Event.account? = es.mapM Event.account? := by
  have read (l : List Event) : l.mapM Event.account? = (l.map Event.account?).mapM id := by
    rw [List.mapM_map]
    rfl
  rw [read, read, map_numbered fun _ _ => rfl]

end EventLog

theorem StartingPlayer.balanced_player (o : StartingPlayer) : o.player.Balanced where
  standing faction := by
    cases known : o.player.reputation.get? faction with
    | none => simp [Player.standing, SortedMap.getD, known, Player.standingLimit]
    | some n =>
      obtain ⟨e, he, rfl⟩ := SortedMap.exists_mem_of_get?_ofList known
      obtain ⟨asked, _, rfl⟩ := List.mem_map.1 he
      simpa [Player.standing, SortedMap.getD, known] using Player.clampStanding_le asked.2
  alignment := by
    simp only [player]
    cases o.alignment with
    | none => exact Alignment.isNormalized_default
    | some a => exact Alignment.isNormalized_renormalize a

namespace Run

theorem balanced_enroll (quests : List Quest) {p : Player} (balanced : p.Balanced) :
    (enroll quests p).Balanced := by
  unfold enroll
  induction quests generalizing p with
  | nil => exact balanced
  | cons q quests ih => exact ih ⟨balanced.standing, balanced.alignment⟩

theorem balanced_start (s : Scenario) (o : StartingPlayer) (minutes : Nat)
    (source : Random.Source) : (start s o.player minutes source).player.Balanced :=
  balanced_enroll s.quests o.balanced_player

theorem step_block {s : Scenario} {r r' : Run} (next : step? s r = some r') :
    ∃ q ∈ s.quests, (pick s r).1 = some q ∧ ∃ a, Ended q a r r' ∧
      ∃ b : Block, b.TellsOf s r.player q r.clock.elapsed (r.clock.elapsed + a.seconds) ∧
        b.ended.data.field? "success" = some (.bool a.success) ∧
        r'.log = b.events.foldl EventLog.push r.log ∧
        (r.player.Balanced → r'.player.Balanced ∧
          r.player.ledger.Follows b.events r'.player.ledger) := by
  obtain ⟨q, hq, _, source, picked, rfl⟩ := exists_picked next
  have ended := (play_ends s { r with source } q).of_source
  exact ⟨q, hq, by rw [picked], _, ended, exists_block s { r with source } q⟩

/-- What steps add to the log leads from the ledger before them to the ledger after them. -/
theorem Reaches.follows {s : Scenario} {r r' : Run} (reached : Reaches s r r')
    (balanced : r.player.Balanced) :
    ∃ es, r'.log = es.foldl EventLog.push r.log ∧ r'.player.Balanced ∧
      r.player.ledger.Follows es r'.player.ledger := by
  refine reached.preserves (P := fun r' => ∃ es, r'.log = es.foldl EventLog.push r.log ∧
    r'.player.Balanced ∧ r.player.ledger.Follows es r'.player.ledger) ?_
    ⟨[], rfl, balanced, .of_eq rfl⟩
  intro m m' next ⟨es, log, middle, told⟩
  obtain ⟨_, _, _, _, _, b, _, _, logged, account⟩ := step_block next
  obtain ⟨last, told'⟩ := account middle
  exact ⟨es ++ b.events, by rw [logged, log, List.foldl_append], last, told.append told'⟩

theorem Reaches.balanced {s : Scenario} {o : StartingPlayer} {minutes : Nat}
    {source : Random.Source} {r : Run} (reached : Reaches s (start s o.player minutes source) r) :
    r.player.Balanced := by
  obtain ⟨_, _, balanced, _⟩ := reached.follows (balanced_start s o minutes source)
  exact balanced

theorem Reaches.follows_start {s : Scenario} {o : StartingPlayer} {minutes : Nat}
    {source : Random.Source} {r : Run} (reached : Reaches s (start s o.player minutes source) r) :
    (start s o.player minutes source).player.ledger.Follows r.log.events.toList r.player.ledger := by
  obtain ⟨es, log, _, entries, read, folded, admitted⟩ :=
    reached.follows (balanced_start s o minutes source)
  refine ⟨entries, ?_, folded, admitted⟩
  rw [log, start, EventLog.toList_foldl_push_empty, EventLog.mapM_account?_numbered, read]

end Run

/-- The log of a transcript replays to the player at the end. All of its events can be read. Folded
in order over the player at the start they give what the final player carries, the flags, the
alignment, the place, the standing with every faction and the status of every quest; and each entry
is admitted by what those before it lead to, so that no change is told that did not take place. -/
theorem Scenario.log_replays {s : Scenario} {t : Transcript} (told : s.Yields t) :
    ∃ entries, t.events.mapM Event.account? = some entries ∧
      entries.foldl Ledger.enter t.initial.ledger = t.final.ledger ∧
      t.initial.ledger.AdmitsAll entries := by
  obtain ⟨o, minutes, source, stamp, labels, seed, r, termination, reached, rfl⟩ := told
  exact reached.follows_start

theorem Scenario.twins_replay : ∃ t,
    Run.twins.play {} { seed := some 1 } {} { stamp := ⟨⟨0⟩, ⟨0, 0⟩⟩ } = .ok t ∧ ∃ entries,
      t.events.mapM Event.account? = some entries ∧
      entries.foldl Ledger.enter t.initial.ledger = t.final.ledger ∧
      t.initial.ledger.AdmitsAll entries ∧ entries ≠ [] := by
  obtain ⟨t, played⟩ := exists_play (s := Run.twins) rfl {} { seed := some 1 } {}
    { stamp := ⟨⟨0⟩, ⟨0, 0⟩⟩ }
  have told := yields_of_play played
  obtain ⟨entries, read, folded, admitted⟩ := log_replays told
  refine ⟨t, played, entries, read, folded, admitted, ?_⟩
  rintro rfl
  -- without entries the quest would stand at its end as it stood at its beginning
  obtain ⟨id, waiting, finished⟩ := told.exists_ended (Run.attempted_twins played)
  have same : t.initial.status id = t.final.status id :=
    congrFun (congrArg Ledger.status folded) id
  rw [← same, waiting] at finished
  cases finished

end Storyline

import Storyline.Proofs.Play.Course

/-!
The tones that a run strikes. It highlights an event as a success or an error just where the event
tells of the end of a quest or of a level reached.
-/
namespace Storyline

namespace Event

def TellsLevel (e : Event) : Prop :=
  e.kind = .statChange ∧ ∃ old new : Int,
    e.description = "reached level " ++ toString new ∧
    e.data = .object [("stat", .string "level"), ("from", .integer old), ("to", .integer new)]

def Toned (e : Event) : Prop :=
  e.tone = .success ∨ e.tone = .error ↔ e.kind = .questComplete ∨ e.TellsLevel

theorem toned_of_plain {e : Event} (tone : e.tone = .info ∨ e.tone = .warning)
    (kind : e.kind ≠ .questComplete ∧ e.kind ≠ .statChange) : e.Toned := by
  refine iff_of_false ?_ ?_
  · rcases tone with tone | tone <;> simp [tone]
  · rintro (ends | ⟨changes, _⟩)
    · exact kind.1 ends
    · exact kind.2 changes

theorem toned_changeEvent (p : Player) (time : Nat) (change : Change) :
    (Run.changeEvent p time change).Toned := by
  cases change with
  | stat name delta =>
    -- a change of a stat has other fields than a level reached
    refine iff_of_false (by simp [Run.changeEvent]) ?_
    rintro (ends | ⟨_, old, new, _, data⟩)
    · cases ends
    · simp [Run.changeEvent] at data
  | itemGained item => exact toned_of_plain (.inl rfl) ⟨nofun, nofun⟩
  | itemLost item => exact toned_of_plain (.inr rfl) ⟨nofun, nofun⟩
  | flag name value => exact toned_of_plain (.inl rfl) ⟨nofun, nofun⟩
  | reputation faction delta =>
    refine toned_of_plain ?_ ⟨nofun, nofun⟩
    simp only [Run.changeEvent]
    split
    · exact .inr rfl
    · exact .inl rfl

theorem toned_endEvent (q : Quest) (a : Attempt) (time : Nat) : (Run.endEvent q a time).Toned := by
  refine iff_of_true ?_ (.inl rfl)
  simp only [Run.endEvent]
  split
  · exact .inl rfl
  · exact .inr rfl

end Event

namespace Run

variable {s : Scenario} {r r' : Run}

def InTune (r : Run) : Prop := ∀ e ∈ r.log.events.toList, e.Toned

namespace InTune

theorem congr (tuned : r.InTune) (same : r'.log = r.log) : r'.InTune := by
  rw [InTune, same]
  exact tuned

theorem emit {e : Event} (tuned : r.InTune) (toned : e.Toned) : (r.emit e).InTune := by
  intro e' he
  have pushed : e' ∈ r.log.events.toList ∨ e' = { e with id := r.log.events.size + 1 } := by
    simpa [Run.emit, EventLog.push] using he
  rcases pushed with former | rfl
  · exact tuned e' former
  · exact toned

theorem foldl {α : Type} {f : Run → α → Run} (each : ∀ r a, r.InTune → (f r a).InTune)
    (tuned : r.InTune) (l : List α) : (l.foldl f r).InTune := by
  induction l generalizing r with
  | nil => exact tuned
  | cons a l ih => exact ih (each r a tuned)

theorem arrive (tuned : r.InTune) (s : Scenario) (q : Quest) : (Run.arrive s r q).InTune := by
  have begun : (r.begin q r.clock.elapsed).InTune :=
    emit (tuned.congr rfl) (Event.toned_of_plain (.inl rfl) ⟨nofun, nofun⟩)
  have travelled : ((r.begin q r.clock.elapsed).travel q r.clock.elapsed).InTune := by
    generalize r.begin q r.clock.elapsed = there at begun
    unfold travel
    split
    · unfold travelTo
      dsimp only
      split
      · exact begun
      · exact emit (begun.congr rfl) (Event.toned_of_plain (.inl rfl) ⟨nofun, nofun⟩)
    · exact begun
  refine foldl (fun r d tuned => ?_) travelled _
  exact emit (tuned.congr rfl) (Event.toned_of_plain (.inl rfl) ⟨nofun, nofun⟩)

theorem record (tuned : r.InTune) (time : Nat) (changed : Player × Option Change) :
    (r.record time changed).InTune := by
  obtain ⟨p, change⟩ := changed
  cases change with
  | none => exact tuned
  | some change => exact emit (tuned.congr rfl) (Event.toned_changeEvent p time change)

theorem levelUp (tuned : r.InTune) (time : Nat) : (r.levelUp time).InTune := by
  unfold Run.levelUp
  split
  · exact tuned
  · refine emit (tuned.congr rfl) ?_
    exact iff_of_true (.inl rfl) (.inr ⟨rfl, _, _, rfl, rfl⟩)

theorem settle (tuned : r.InTune) (s : Scenario) (q : Quest) (a : Attempt) (time : Nat) :
    (Run.settle s r q a time).InTune := by
  unfold Run.settle
  split
  · have closed := emit (r := { r with
      completed := r.completed + 1
      player := r.player.setStatus q.id .completed }) (tuned.congr rfl)
      (Event.toned_endEvent q a time)
    have rewarded := foldl (f := reward time) (fun r w tuned => record tuned time _) closed a.rewards
    exact foldl (fun r credit tuned => record tuned time _) (levelUp rewarded time) _
  · exact emit (tuned.congr rfl) (Event.toned_endEvent q a time)

theorem judge (tuned : r.InTune) (q : Quest) (a : Attempt) (time : Nat) :
    (r.judge q a time).InTune := by
  unfold Run.judge
  dsimp only
  split
  · exact tuned
  · split
    · exact tuned
    · exact emit (tuned.congr rfl) (Event.toned_of_plain (.inl rfl) ⟨nofun, nofun⟩)

-- The run at the end is a variable here, so that nothing unfolds the draws of the attempt.
theorem of_eq {there last : Run} {q : Quest} {a : Attempt} {source : Random.Source} {time : Nat}
    (played : last = ((Run.settle s { there with source } q a time).judge q a time).close a)
    (arrived : there.InTune) : last.InTune := by
  have settled := settle (r := { there with source }) (arrived.congr rfl) s q a time
  exact (settled.judge q a time).congr (played ▸ rfl)

theorem play (tuned : r.InTune) (s : Scenario) (q : Quest) : (Run.play s r q).InTune :=
  of_eq (play_eq s r q) (tuned.arrive s q)

theorem step (tuned : r.InTune) (next : step? s r = some r') : r'.InTune := by
  obtain ⟨q, _, _, source, _, rfl⟩ := exists_picked next
  have drawn : InTune { r with source } := tuned
  exact drawn.play s q

end InTune

theorem Reaches.inTune {p : Player} {minutes : Nat} {source : Random.Source}
    (reached : Reaches s (start s p minutes source) r) : r.InTune :=
  reached.preserves (fun _ _ next tuned => tuned.step next) nofun

end Run

theorem Scenario.Yields.toned {s : Scenario} {t : Transcript} (told : s.Yields t) :
    ∀ e ∈ t.events, e.Toned := by
  obtain ⟨o, minutes, source, stamp, labels, seed, r, termination, reached, rfl⟩ := told
  exact reached.inTune

end Storyline

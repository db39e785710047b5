import Storyline.Proofs.Play.Chronicle

/-!
How a run comes to its end. The loop is stated here without any bound on its steps; it stops all the
same, after no more attempts than there are quests or minutes. Deadlines may pass at any time or not
at all.
-/
namespace Storyline

namespace Block

variable {b : Block} {s : Scenario} {p : Player} {q : Quest} {start finish : Nat}

theorem events_eq (b : Block) : b.events = b.begun :: (b.moves ++ b.lines ++ b.closing) := rfl

theorem TellsOf.later_ne_questStart (h : b.TellsOf s p q start finish) :
    ∀ e ∈ b.moves ++ b.lines ++ b.closing, e.kind ≠ .questStart := by
  simp only [Block.closing, List.forall_mem_append, List.forall_mem_cons]
  refine ⟨⟨?_, ?_⟩, ?_, ?_, ?_⟩
  · exact fun e he => by simp [h.moves.2 e he]
  · exact fun e he => by simp [h.kind_of_mem_lines e he]
  · simp [h.ended.1]
  · exact fun e he => (h.changes e he).ne_quest.1
  · exact fun e he => by simp [h.shifts.2 e he]

theorem TellsOf.timestamp_of_questStart (h : b.TellsOf s p q start finish) {e : Event}
    (he : e ∈ b.events) (kind : e.kind = .questStart) : e.timestamp = start := by
  rw [events_eq] at he
  rcases List.mem_cons.1 he with rfl | later
  · exact h.opening _ List.mem_cons_self
  · exact absurd kind (h.later_ne_questStart e later)

end Block

theorem EventLog.mem_foldl_push {log : EventLog} {es : List Event} {e : Event}
    (he : e ∈ (es.foldl push log).events.toList) :
    e ∈ log.events.toList ∨ ∃ o ∈ es, e.kind = o.kind ∧ e.timestamp = o.timestamp := by
  rw [toList_foldl_push] at he
  rcases List.mem_append.1 he with old | new
  · exact .inl old
  · obtain ⟨i, inside, rfl⟩ := List.mem_mapIdx.1 new
    exact .inr ⟨es[i], List.getElem_mem inside, rfl, rfl⟩

namespace Run

variable {s : Scenario} {expired : Nat → Bool} {n m : Nat} {r r' last last' : Run}
  {t t' : Termination}

theorem eq_of_stays (stays : step s r = (r', false)) : r' = r := by
  have same := step_eq_self (congrArg Prod.snd stays)
  rw [stays] at same
  exact same

/-- The loop: the budget is looked at first, then the deadline, then the content. The number counts
the steps that played a quest; the step that finds none ends the loop. -/
inductive PlaysOn (s : Scenario) (expired : Nat → Bool) : Nat → Run → Run → Termination → Prop where
  | exhausted {r : Run} (spent : r.clock.isExhausted = true) : PlaysOn s expired 0 r r .timeBudget
  | late {r : Run} (left : r.clock.isExhausted = false) (late : expired r.attempted = true) :
    PlaysOn s expired 0 r r .deadline
  | idle {r r' : Run} (left : r.clock.isExhausted = false) (early : expired r.attempted = false)
    (stays : step s r = (r', false)) : PlaysOn s expired 0 r r' .noAvailableQuests
  | attempt {n : Nat} {r r' last : Run} {t : Termination} (left : r.clock.isExhausted = false)
    (early : expired r.attempted = false) (goes : step s r = (r', true))
    (rest : PlaysOn s expired n r' last t) : PlaysOn s expired (n + 1) r last t

namespace PlaysOn

theorem attempted (h : PlaysOn s expired n r last t) : last.attempted = r.attempted + n := by
  induction h with
  | exhausted => rfl
  | late => rfl
  | idle _ _ stays => exact congrArg Run.attempted (eq_of_stays stays)
  | @attempt n r r' last t _ _ goes _ ih =>
    obtain ⟨_, _, _, _, ended⟩ := step_ends (step?_eq_some_iff.2 goes)
    rw [ih, ended.attempted]
    omega

theorem reaches (h : PlaysOn s expired n r last t) : Reaches s r last := by
  induction h with
  | exhausted => exact .refl
  | late => exact .refl
  | idle _ _ stays => exact eq_of_stays stays ▸ .refl
  | attempt _ _ goes _ ih => exact .head (congrArg Prod.fst goes) ih

theorem unique (h : PlaysOn s expired n r last t) (h' : PlaysOn s expired m r last' t') :
    n = m ∧ last = last' ∧ t = t' := by
  induction h generalizing m last' t' with
  | exhausted spent => cases h' <;> simp_all
  | late left late => cases h' <;> simp_all
  | idle left early stays => cases h' <;> simp_all
  | attempt left early goes rest ih =>
    cases h' with
    | exhausted spent => simp_all
    | late _ late => simp_all
    | idle _ _ stays => simp_all
    | attempt _ _ goes' rest' =>
      rw [goes] at goes'
      cases goes'
      obtain ⟨rfl, rfl, rfl⟩ := ih rest'
      exact ⟨rfl, rfl, rfl⟩

theorem reason (h : PlaysOn s expired n r last t) :
    (t = .timeBudget ↔ last.clock.isExhausted = true) ∧
    (t = .deadline → expired last.attempted = true) ∧
    (t = .noAvailableQuests → available s last = []) := by
  induction h with
  | exhausted spent => simp [spent]
  | late left late => simp [left, late]
  | @idle r _ left early stays =>
    rcases step_cases s r with ⟨same, none⟩ | ⟨q, _, _, source, _, goes⟩
    · rw [same] at stays
      cases stays
      simp [left, none]
    · rw [goes] at stays
      cases stays
  | attempt _ _ _ _ ih => exact ih

/-- A loop that ends before its deadline does not need one. -/
theorem undisturbed (h : PlaysOn s expired n r last t) (early : t ≠ .deadline) :
    PlaysOn s (fun _ => false) n r last t := by
  induction h with
  | exhausted spent => exact .exhausted spent
  | late => exact absurd rfl early
  | idle left _ stays => exact .idle left rfl stays
  | attempt left _ goes _ ih => exact .attempt left rfl goes (ih early)

end PlaysOn

/-- The bound that the run is played with does not show: the loop has ended by then. -/
theorem playsOn_finish (expired : Nat → Bool) (fuel : Nat) (r : Run)
    (enough : remaining s r ≤ fuel) :
    ∃ n, PlaysOn s expired n r (finish s expired fuel r).1 (finish s expired fuel r).2 := by
  fun_induction finish s expired fuel r with
  | case1 r _ spent => exact ⟨0, .exhausted spent⟩
  | case2 r _ left late => exact ⟨0, .late (by simpa using left) late⟩
  | case3 r left early n r' next ih =>
    have fewer := remaining_step next
    obtain ⟨n, rest⟩ := ih (by omega)
    exact ⟨n + 1, .attempt (by simpa using left) (by simpa using early)
      (step?_eq_some_iff.1 next) rest⟩
  | case4 fuel r left early last =>
    cases next : step? s r with
    | none =>
      have stays : step s r = (r, false) := by
        rcases step_cases s r with ⟨stays, _⟩ | ⟨q, hq, can, _, _, _⟩
        · exact stays
        · rw [step?_eq_none_iff.1 next q hq] at can
          cases can
      exact ⟨0, .idle (by simpa using left) (by simpa using early) stays⟩
    | some r' =>
      have fewer := remaining_step next
      obtain ⟨n, rfl⟩ : ∃ n, fuel = n + 1 := ⟨fuel - 1, by omega⟩
      exact (last n r' rfl next).elim

theorem playsOn_toEnd (s : Scenario) (expired : Nat → Bool) (p : Player) (minutes : Nat)
    (source : Random.Source) :
    ∃ n, PlaysOn s expired n (start s p minutes source)
      (toEnd s expired (start s p minutes source)).1
      (toEnd s expired (start s p minutes source)).2 :=
  playsOn_finish expired _ _ List.countP_le_length

structure OnTime (minutes : Nat) (r : Run) : Prop where
  budget : r.clock.budget = minutes * 60
  attempted : r.attempted ≤ minutes
  elapsed : min (r.attempted * Quest.leastSeconds) Bounded.greatestWord ≤ r.clock.elapsed
  starts : ∀ e ∈ r.log.events.toList, e.kind = .questStart → e.timestamp < minutes * 60

theorem onTime_start (s : Scenario) (o : StartingPlayer) (minutes : Nat) (source : Random.Source) :
    OnTime minutes (start s o.player minutes source) where
  budget := rfl
  attempted := Nat.zero_le _
  elapsed := by simp [start]
  starts := by simp [start]

theorem OnTime.step {minutes : Nat} (h : OnTime minutes r)
    (permitted : minutes ≤ Quest.greatestMinutes) (left : r.clock.isExhausted = false)
    (next : step? s r = some r') : OnTime minutes r' := by
  obtain ⟨q, _, _, a, ended, b, tells, _, logged, _⟩ := step_block next
  have least := ended.leastSeconds_le
  have before : r.clock.elapsed < minutes * 60 := by
    simpa [Clock.isExhausted, h.budget] using left
  have elapsed := h.elapsed
  have attempted := ended.attempted
  unfold Quest.leastSeconds at least elapsed
  unfold Quest.greatestMinutes at permitted
  -- the clock is far from its last word, so it has gone a minute for each attempt
  have passed : r.attempted * 60 ≤ r.clock.elapsed := by
    unfold Bounded.greatestWord at elapsed
    omega
  refine ⟨?_, by omega, ?_, ?_⟩
  · rw [ended.clock]
    exact h.budget
  · rw [ended.clock, Clock.advance, attempted]
    unfold Quest.leastSeconds
    dsimp only
    omega
  · intro e he kind
    rw [logged] at he
    rcases EventLog.mem_foldl_push he with old | ⟨o, ho, sameKind, sameTime⟩
    · exact h.starts e old kind
    · rw [sameTime, tells.timestamp_of_questStart ho (sameKind ▸ kind)]
      exact before

theorem attempted_le_card (s : Scenario) {o : StartingPlayer} {minutes : Nat}
    {source : Random.Source} (reached : Reaches s (start s o.player minutes source) r) :
    r.attempted ≤ s.ids.card := by
  rw [reached.betweenSteps.attempts]
  exact Finset.card_filter_le _ _

/-- A run ends by itself, and in one way only. It makes no more attempts than there are identifiers
of quests, nor than minutes in its budget, and each of them starts before the budget is used up. It
tells that the budget was used up exactly if it was; if not, and if no deadline passed, nothing is
left that could be started. Without any budget nothing happens. -/
theorem halts_within (s : Scenario) (o : StartingPlayer) {minutes : Nat}
    (permitted : minutes ≤ Quest.greatestMinutes) (source : Random.Source) (expired : Nat → Bool) :
    ∃ n last t, toEnd s expired (start s o.player minutes source) = (last, t) ∧
      PlaysOn s expired n (start s o.player minutes source) last t ∧
      (∀ m r t', PlaysOn s expired m (start s o.player minutes source) r t' →
        m = n ∧ r = last ∧ t' = t) ∧
      n = last.attempted ∧ n ≤ min s.ids.card minutes ∧
      (∀ e ∈ last.log.events.toList, e.kind = .questStart → e.timestamp < minutes * 60) ∧
      (t = .timeBudget ↔ minutes * 60 ≤ last.clock.elapsed) ∧
      (t ≠ .timeBudget → (∀ attempts, expired attempts = false) →
        t = .noAvailableQuests ∧ available s last = []) ∧
      (minutes = 0 → last.log.events = #[] ∧
        last.player = (start s o.player minutes source).player) := by
  obtain ⟨n, played⟩ := playsOn_toEnd s expired o.player minutes source
  have few := attempted_le_card s (reaches_toEnd s expired (start s o.player minutes source))
  have onTime : OnTime minutes (toEnd s expired (start s o.player minutes source)).1 :=
    finish_preserves (fun _ _ left next h => h.step permitted left next) _ _
      (onTime_start s o minutes source)
  generalize toEnd s expired (start s o.player minutes source) = whole at *
  obtain ⟨last, t⟩ := whole
  dsimp only at played few onTime
  have counted : last.attempted = n := by simpa [start] using played.attempted
  obtain ⟨budget, late, content⟩ := played.reason
  have exhausted : last.clock.isExhausted = true ↔ minutes * 60 ≤ last.clock.elapsed := by
    simp [Clock.isExhausted, onTime.budget]
  refine ⟨n, last, t, rfl, played, ?_, counted.symm, ?_, onTime.starts, budget.trans exhausted,
    ?_, ?_⟩
  · intro m r t' other
    exact other.unique played
  · have within := onTime.attempted
    omega
  · intro other never
    have stopped : t = .noAvailableQuests := by
      cases t with
      | timeBudget => exact absurd rfl other
      | deadline =>
        have passed := late rfl
        rw [never] at passed
        cases passed
      | noAvailableQuests => rfl
    exact ⟨stopped, content stopped⟩
  · intro zero
    subst zero
    obtain ⟨_, rfl, _⟩ := played.unique (.exhausted rfl)
    exact ⟨rfl, rfl⟩

/-- Twins are attempted once, whatever the budget. -/
theorem twins_halt : ∃ n last t, toEnd twins (fun _ => false) twinsAtStart = (last, t) ∧
    PlaysOn twins (fun _ => false) n twinsAtStart last t ∧ n = 1 := by
  have permitted : 60 ≤ Quest.greatestMinutes := by decide
  obtain ⟨n, last, t, ends, played, _, counted, few, _⟩ :=
    halts_within twins {} permitted (.ofSeed 1) fun _ => false
  obtain ⟨r, next⟩ := exists_step_twins
  have some_played : 0 < (toEnd twins (fun _ => false) twinsAtStart).1.attempted :=
    attempted_toEnd_pos (by decide) rfl rfl next
  rw [show toEnd twins (fun _ => false) twinsAtStart = (last, t) from ends] at some_played
  have once : twins.ids.card = 1 := by decide
  dsimp only at some_played
  exact ⟨n, last, t, ends, played, by omega⟩

end Run

variable {s : Scenario} {o : StartingPlayer} {settings : RunSettings} {labels : RunLabels}
  {c : Circumstances} {t : Transcript} {seed : Nat}

theorem Scenario.exists_playsOn (played : s.play o settings labels c = .ok t)
    (seeded : settings.seed = some seed) :
    let first := Run.start s o.player settings.maxMinutes (.ofSeed seed)
    ∃ n last, Run.PlaysOn s (settings.hasExpired c.realSeconds) n first last t.termination ∧
      t = .ofRun c.stamp labels s.style seed first.player last t.termination := by
  have transcript := play_eq_ok played
  rw [seeded, Option.getD_some] at transcript
  obtain ⟨n, ends⟩ := Run.playsOn_toEnd s (settings.hasExpired c.realSeconds) o.player
    settings.maxMinutes (.ofSeed seed)
  exact ⟨n, _, by rw [transcript]; exact ends, by rw [transcript]; rfl⟩

theorem Scenario.termination_ne_deadline (played : s.play o settings labels c = .ok t)
    (never : ∀ attempts, settings.hasExpired c.realSeconds attempts = false) :
    t.termination ≠ .deadline := by
  intro late
  rw [play_eq_ok played] at late
  have passed := (Run.finish_reason s (settings.hasExpired c.realSeconds) _ _).2 late
  rw [never] at passed
  cases passed

end Storyline

import Storyline.Proofs.Play.View

/-!
Runs that differ in their budget alone. The longer one plays on from where the shorter one stops, so
the log of the shorter is where the log of the longer begins; and where the shorter one stopped for
want of content, so does the longer. Deadlines must not pass in either.
-/
namespace Storyline

def View.longer (budget : Nat) : View := { whole with budget := max budget }

theorem View.carries_longer (budget : Nat) (s : Scenario) : (View.longer budget).Carries s s where
  characters := rfl
  lines r q time := run_speak _ r rfl rfl (fun _ => rfl) (fun _ _ => rfl) q time
  quest r := by rw [pick_run]
  source r := by rw [pick_run]

namespace Run

variable {s : Scenario} {expired expired' : Nat → Bool} {n m budget : Nat}
  {r r' r'' last last' : Run} {t t' : Termination}

structure Extends (r r' : Run) : Prop where
  log : r.log.events.toList <+: r'.log.events.toList
  attempted : r.attempted ≤ r'.attempted
  completed : r.completed ≤ r'.completed
  failed : r.failed ≤ r'.failed
  elapsed : r.clock.elapsed ≤ r'.clock.elapsed

namespace Extends

theorem refl (r : Run) : Extends r r :=
  ⟨List.prefix_rfl, Nat.le_refl _, Nat.le_refl _, Nat.le_refl _, Nat.le_refl _⟩

theorem trans (first : Extends r r') (rest : Extends r' r'') : Extends r r'' where
  log := first.log.trans rest.log
  attempted := first.attempted.trans rest.attempted
  completed := first.completed.trans rest.completed
  failed := first.failed.trans rest.failed
  elapsed := first.elapsed.trans rest.elapsed

theorem of_step (inTime : r.clock.elapsed ≤ Bounded.greatestWord) (next : step? s r = some r') :
    Extends r r' ∧ r'.clock.elapsed ≤ Bounded.greatestWord := by
  obtain ⟨q, _, _, a, ended, b, _, _, logged, _⟩ := step_block next
  have clock : r'.clock.elapsed = min (r.clock.elapsed + a.seconds) Bounded.greatestWord := by
    rw [ended.clock]
    rfl
  refine ⟨⟨?_, ?_, ?_, ?_, by omega⟩, by omega⟩
  · rw [logged, EventLog.toList_foldl_push]
    exact List.prefix_append _ _
  · rw [ended.attempted]
    omega
  · rw [ended.completed]
    omega
  · rw [ended.failed]
    omega

end Extends

theorem PlaysOn.extends (played : PlaysOn s expired n r last t)
    (inTime : r.clock.elapsed ≤ Bounded.greatestWord) : Extends r last := by
  induction played with
  | exhausted => exact .refl _
  | late => exact .refl _
  | idle _ _ stays => exact eq_of_stays stays ▸ .refl _
  | attempt _ _ goes _ ih =>
    obtain ⟨first, later⟩ := Extends.of_step inTime (step?_eq_some_iff.2 goes)
    exact first.trans (ih later)

theorem extends_longer (budget : Nat) (r : Run) : Extends r ((View.longer budget).run r) :=
  ⟨List.prefix_rfl, Nat.le_refl _, Nat.le_refl _, Nat.le_refl _, Nat.le_refl _⟩

theorem isExhausted_longer (spent : ((View.longer budget).run r).clock.isExhausted = true) :
    r.clock.isExhausted = true := by
  have longest : max budget r.clock.budget ≤ r.clock.elapsed := of_decide_eq_true spent
  exact decide_eq_true ((Nat.le_max_right _ _).trans longest)

/-- Step by step the two runs are the same, until the budget of the first is used up. -/
theorem PlaysOn.longer (played : PlaysOn s expired n r last t)
    (played' : PlaysOn s expired' m ((View.longer budget).run r) last' t')
    (early : t ≠ .deadline) (early' : t' ≠ .deadline)
    (inTime : r.clock.elapsed ≤ Bounded.greatestWord) :
    Extends last last' ∧ (t = .noAvailableQuests →
      last' = (View.longer budget).run last ∧ t' = .noAvailableQuests) := by
  have carries := View.carries_longer budget s
  induction played generalizing m with
  | @exhausted r spent =>
    refine ⟨(extends_longer budget r).trans (played'.extends inTime), ?_⟩
    intro other
    cases other
  | late => exact absurd rfl early
  | @idle r r' left _ stays =>
    cases eq_of_stays stays
    have stays' := carries.step_eq stays
    cases played' with
    | exhausted spent =>
      rw [isExhausted_longer spent] at left
      cases left
    | late => exact absurd rfl early'
    | idle _ _ goes =>
      rw [stays'] at goes
      cases goes
      exact ⟨extends_longer budget r, fun _ => ⟨rfl, rfl⟩⟩
    | attempt _ _ goes _ =>
      rw [stays'] at goes
      cases goes
  | @attempt _ r r' last t left _ goes rest ih =>
    have goes' := carries.step_eq goes
    cases played' with
    | exhausted spent =>
      rw [isExhausted_longer spent] at left
      cases left
    | late => exact absurd rfl early'
    | idle _ _ stays =>
      rw [goes'] at stays
      cases stays
    | attempt _ _ next rest' =>
      rw [goes'] at next
      cases next
      obtain ⟨_, later⟩ := Extends.of_step inTime (step?_eq_some_iff.2 goes)
      exact ih rest' early later

theorem longer_start {minutes minutes' : Nat} (more : minutes ≤ minutes') (s : Scenario)
    (p : Player) (source : Random.Source) :
    (View.longer (minutes' * 60)).run (start s p minutes source) = start s p minutes' source := by
  have budget : max (minutes' * 60) (minutes * 60) = minutes' * 60 :=
    Nat.max_eq_left (Nat.mul_le_mul_right 60 more)
  change { start s p minutes source with clock := ⟨0, max (minutes' * 60) (minutes * 60)⟩ } = _
  rw [budget]
  rfl

end Run

namespace Scenario

variable {s : Scenario} {settings settings' : RunSettings} {seed : Nat}

/-- A longer budget only extends a run. What the run logs within the shorter one is where its log
within the longer one begins, and it attempts, completes and fails no more quests and takes no more
time. Where it stopped for want of quests, it comes to the same end in the same way. -/
theorem longer_extends (known : s.check = .ok ()) (o : StartingPlayer)
    (seeded : settings.seed = some seed) (seeded' : settings'.seed = some seed)
    (longer : settings.maxMinutes ≤ settings'.maxMinutes) (labels labels' : RunLabels)
    (c c' : Circumstances) :
    ∃ t t', s.play o settings labels c = .ok t ∧ s.play o settings' labels' c' = .ok t' ∧
      (t.termination ≠ .deadline → t'.termination ≠ .deadline →
        t.events <+: t'.events ∧
        (t.attempted ≤ t'.attempted ∧ t.completed ≤ t'.completed ∧ t.failed ≤ t'.failed ∧
          t.seconds ≤ t'.seconds) ∧
        (t.termination = .noAvailableQuests →
          t'.events = t.events ∧ t'.final = t.final ∧ t'.attempted = t.attempted ∧
          t'.completed = t.completed ∧ t'.failed = t.failed ∧ t'.seconds = t.seconds ∧
          t'.termination = t.termination)) := by
  obtain ⟨t, played⟩ := exists_play known o settings labels c
  obtain ⟨t', played'⟩ := exists_play known o settings' labels' c'
  refine ⟨t, t', played, played', ?_⟩
  intro early early'
  obtain ⟨_, last, ends, told⟩ := exists_playsOn played seeded
  obtain ⟨_, last', ends', told'⟩ := exists_playsOn played' seeded'
  rw [← Run.longer_start longer] at ends'
  obtain ⟨beyond, stopped⟩ := ends.longer ends' early early' (Nat.zero_le _)
  clear played played'
  generalize t.termination = reason at *
  generalize t'.termination = reason' at *
  subst told told'
  refine ⟨beyond.log, ⟨beyond.attempted, beyond.completed, beyond.failed, beyond.elapsed⟩, ?_⟩
  intro idle
  obtain ⟨rfl, rfl⟩ := stopped idle
  exact ⟨rfl, rfl, rfl, rfl, rfl, rfl, idle.symm⟩

theorem twins_longer : ∃ t t',
    Run.twins.play {} { seed := some 1, maxMinutes := 1 } {} { stamp := ⟨⟨0⟩, ⟨0, 0⟩⟩ } = .ok t ∧
    Run.twins.play {} { seed := some 1 } {} { stamp := ⟨⟨0⟩, ⟨0, 0⟩⟩ } = .ok t' ∧
    t.events <+: t'.events ∧ t.attempted ≤ t'.attempted ∧ 0 < t'.attempted := by
  obtain ⟨t, t', played, played', extended⟩ := longer_extends (s := Run.twins) rfl {}
    (rfl : ({ seed := some 1, maxMinutes := 1 } : RunSettings).seed = some 1)
    (rfl : ({ seed := some 1 } : RunSettings).seed = some 1) (by decide) {} {}
    { stamp := ⟨⟨0⟩, ⟨0, 0⟩⟩ } { stamp := ⟨⟨0⟩, ⟨0, 0⟩⟩ }
  have early := termination_ne_deadline played fun _ => rfl
  have early' := termination_ne_deadline played' fun _ => rfl
  obtain ⟨begins, counts, _⟩ := extended early early'
  exact ⟨t, t', played, played', begins, counts.1, Run.attempted_twins played'⟩

end Scenario

end Storyline

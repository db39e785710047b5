import Storyline.Proofs.Number.Rounding
import Storyline.Proofs.Play.Course

/-!
How long attempts take, and how late a run can be at its end. An attempt takes a minute at least,
and there is a bound on its length that leaves the clock far from its last word.
-/
namespace Storyline

def Quest.greatestSeconds : Nat := Nat.pow 2 40

theorem Quest.leastSeconds_le_secondsFor (q : Quest) (draw : Nat) :
    leastSeconds ≤ q.secondsFor draw :=
  Nat.le_max_left ..

theorem Quest.secondsFor_le {q : Quest} (permitted : q.minutes ≤ greatestMinutes) {draw : Nat}
    (drawn : draw < Nat.pow 2 52) : q.secondsFor draw ≤ greatestSeconds := by
  -- the factor is no more than 5/4, and each of the two roundings adds half at most
  have factor := Rounding.toLeadingBits_le (by decide : 2 ≤ 53) (draw + 3 * Nat.pow 2 51)
  have product := Rounding.toLeadingBits_le (by decide : 2 ≤ 53)
    (q.minutes * 60 * Rounding.toLeadingBits 53 (draw + 3 * Nat.pow 2 51))
  unfold secondsFor greatestSeconds
  refine Nat.max_le.2 ⟨by decide, Rounding.halfUp_le (by decide) ?_⟩
  generalize Rounding.toLeadingBits 53 (draw + 3 * Nat.pow 2 51) = f at factor product ⊢
  generalize Rounding.toLeadingBits 53 (q.minutes * 60 * f) = rounded at product ⊢
  simp only [Nat.pow_eq] at drawn factor product ⊢
  have most : q.minutes * 60 * f ≤ greatestMinutes * 60 * (15 * 2 ^ 50) :=
    Nat.mul_le_mul (Nat.mul_le_mul_right 60 permitted) (by omega)
  unfold greatestMinutes at most
  omega

namespace Run

variable {s : Scenario} {q : Quest} {a : Attempt} {r r' : Run}

theorem Ended.leastSeconds_le (ended : Ended q a r r') : Quest.leastSeconds ≤ a.seconds := by
  obtain ⟨draw, _, seconds⟩ := ended.drawn
  rw [seconds]
  exact q.leastSeconds_le_secondsFor draw

theorem Ended.seconds_le (ended : Ended q a r r') (permitted : q.minutes ≤ Quest.greatestMinutes) :
    a.seconds ≤ Quest.greatestSeconds := by
  obtain ⟨draw, drawn, seconds⟩ := ended.drawn
  rw [seconds]
  exact Quest.secondsFor_le permitted drawn

/-- Unless the clock has come to its last word, it moved on by the length of the attempt. -/
theorem Ended.elapsed_eq (ended : Ended q a r r')
    (inTime : r'.clock.elapsed < Bounded.greatestWord) :
    r'.clock.elapsed = r.clock.elapsed + a.seconds := by
  rw [ended.clock, Clock.advance] at inTime ⊢
  dsimp only at inTime ⊢
  omega

/-- The last attempt begins within the budget, so the end is not far beyond it. -/
theorem elapsed_toEnd_le (permitted : ∀ q ∈ s.quests, q.minutes ≤ Quest.greatestMinutes)
    (expired : Nat → Bool) (fresh : r.clock.elapsed = 0) :
    (toEnd s expired r).1.clock.elapsed ≤ r.clock.budget + Quest.greatestSeconds := by
  have kept : (toEnd s expired r).1.clock.budget = r.clock.budget ∧
      (toEnd s expired r).1.clock.elapsed ≤ r.clock.budget + Quest.greatestSeconds := by
    refine finish_preserves (P := fun m => m.clock.budget = r.clock.budget ∧
      m.clock.elapsed ≤ r.clock.budget + Quest.greatestSeconds) ?_ _ r ⟨rfl, by omega⟩
    intro m m' left next ⟨budget, _⟩
    obtain ⟨q, hq, _, a, ended⟩ := step_ends next
    have short := ended.seconds_le (permitted q hq)
    have before : m.clock.elapsed < m.clock.budget := by simpa [Clock.isExhausted] using left
    rw [ended.clock, Clock.advance]
    exact ⟨budget, by dsimp only; omega⟩
  exact kept.2

theorem inTime_toEnd (permitted : ∀ q ∈ s.quests, q.minutes ≤ Quest.greatestMinutes)
    (limited : r.clock.budget ≤ Quest.greatestMinutes * 60) (expired : Nat → Bool)
    (fresh : r.clock.elapsed = 0) :
    (toEnd s expired r).1.clock.elapsed < Bounded.greatestWord := by
  have late := elapsed_toEnd_le permitted expired fresh
  unfold Quest.greatestSeconds at late
  rw [Nat.pow_eq] at late
  unfold Quest.greatestMinutes at limited
  unfold Bounded.greatestWord
  omega

end Run

theorem Scenario.seconds_lt_of_play {s : Scenario} {o : StartingPlayer} {settings : RunSettings}
    {labels : RunLabels} {c : Circumstances} {t : Transcript}
    (permitted : ∀ q ∈ s.quests, q.minutes ≤ Quest.greatestMinutes)
    (limited : settings.maxMinutes ≤ Quest.greatestMinutes)
    (played : s.play o settings labels c = .ok t) : t.seconds < Bounded.greatestWord := by
  rw [play_eq_ok played]
  exact Run.inTime_toEnd permitted (Nat.mul_le_mul_right 60 limited)
    (settings.hasExpired c.realSeconds) rfl

end Storyline

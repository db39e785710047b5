import Mathlib.Logic.Relation
import Storyline.Play.Request
import Storyline.Proofs.Play.Lifecycle

/-!
The course of a run: the runs that any number of steps lead to. A step that finds nothing to play
leaves the run alone, the source of randomness included, so what the other steps keep is kept.
-/
namespace Storyline

namespace Run

variable {s : Scenario} {r r' r'' : Run}

theorem step_eq_self (idle : (step s r).2 = false) : (step s r).1 = r := by
  rcases step_cases s r with ⟨stays, _⟩ | ⟨q, _, _, source, _, goes⟩
  · rw [stays]
  · rw [goes] at idle
    cases idle

/-- The steps need not find anything to play. -/
def Reaches (s : Scenario) : Run → Run → Prop :=
  Relation.ReflTransGen fun r r' => (step s r).1 = r'

theorem Reaches.tail (reached : Reaches s r r') (next : step? s r' = some r'') :
    Reaches s r r'' :=
  Relation.ReflTransGen.tail reached (congrArg Prod.fst (step?_eq_some_iff.1 next))

theorem Reaches.preserves {P : Run → Prop} (reached : Reaches s r r')
    (step : ∀ r r', step? s r = some r' → P r → P r') (first : P r) : P r' := by
  induction reached with
  | refl => exact first
  | @tail middle last _ goes ih =>
    subst goes
    cases played : (Run.step s middle).2 with
    | false =>
      rw [step_eq_self played]
      exact ih
    | true => exact step middle _ (step?_eq_some_iff.2 (Prod.ext rfl played)) ih

theorem reaches_toEnd (s : Scenario) (expired : Nat → Bool) (r : Run) :
    Reaches s r (toEnd s expired r).1 :=
  finish_preserves (P := Reaches s r) (fun _ _ _ next reached => reached.tail next) _ r .refl

theorem attempted_toEnd_pos {expired : Nat → Bool} (content : s.quests ≠ [])
    (left : r.clock.isExhausted = false) (early : expired r.attempted = false)
    (next : step? s r = some r') : 0 < (toEnd s expired r).1.attempted := by
  have counts : ∀ {m m' : Run}, step? s m = some m' → 0 < m'.attempted := by
    intro m m' goes
    obtain ⟨_, _, _, _, ended⟩ := step_ends goes
    rw [ended.attempted]
    exact Nat.succ_pos _
  obtain ⟨n, length⟩ := Nat.exists_eq_succ_of_ne_zero
    fun none => content (List.eq_nil_of_length_eq_zero none)
  rw [toEnd, length, Nat.succ_eq_add_one, finish_succ left early next]
  exact finish_preserves (fun _ _ _ goes _ => counts goes) n r' (counts next)

end Run

theorem Transcript.attempted_ofRun (stamp : Stamp) (labels : RunLabels) (style : PlayStyle)
    (seed : Nat) (initial : Player) (r : Run) (termination : Termination) :
    (ofRun stamp labels style seed initial r termination).attempted = r.attempted := rfl

/-- A transcript of a run that was set up for a starting player and then went on for some steps. It
need not have been played to its end. -/
def Scenario.Yields (s : Scenario) (t : Transcript) : Prop :=
  ∃ (o : StartingPlayer) (minutes : Nat) (source : Random.Source) (stamp : Stamp)
    (labels : RunLabels) (seed : Nat) (r : Run) (termination : Termination),
    Run.Reaches s (Run.start s o.player minutes source) r ∧
    t = .ofRun stamp labels s.style seed (Run.start s o.player minutes source).player r termination

theorem Scenario.play_eq_ok {s : Scenario} {o : StartingPlayer} {settings : RunSettings}
    {labels : RunLabels} {c : Circumstances} {t : Transcript}
    (played : s.play o settings labels c = .ok t) :
    let seed := settings.seed.getD c.freshSeed
    let first := Run.start s o.player settings.maxMinutes (.ofSeed seed)
    let last := first.toEnd s (settings.hasExpired c.realSeconds)
    t = .ofRun c.stamp labels s.style seed first.player last.1 last.2 := by
  unfold Scenario.play at played
  cases checked : s.check with
  | error e =>
    rw [checked] at played
    cases played
  | ok _ =>
    rw [checked] at played
    cases played
    rfl

theorem Scenario.exists_play {s : Scenario} (known : s.check = .ok ()) (o : StartingPlayer)
    (settings : RunSettings) (labels : RunLabels) (c : Circumstances) :
    ∃ t, s.play o settings labels c = .ok t := by
  unfold Scenario.play
  rw [known]
  exact ⟨_, rfl⟩

theorem Scenario.yields_of_play {s : Scenario} {o : StartingPlayer} {settings : RunSettings}
    {labels : RunLabels} {c : Circumstances} {t : Transcript}
    (played : s.play o settings labels c = .ok t) : s.Yields t :=
  ⟨o, settings.maxMinutes, .ofSeed (settings.seed.getD c.freshSeed), c.stamp, labels,
    settings.seed.getD c.freshSeed, _, _, Run.reaches_toEnd s _ _, play_eq_ok played⟩

end Storyline

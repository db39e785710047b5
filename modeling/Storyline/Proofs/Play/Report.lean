import Mathlib.Data.Bool.AllAny
import Storyline.Proofs.Play.Balance
import Storyline.Proofs.Text.Tag

/-!
What is reported of a reward, against what it did to the player. Items, flags and standing are
reported as they changed. Of a stat the amount that was asked for is reported, which is the change
just as long as the sum stays in its range. Nothing else changes, and nothing at all without a
report.
-/
namespace Storyline

namespace Stat

theorem plain_of_ofTag? {tag : String} {stat : Stat} (named : ofTag? tag = some stat) :
    Text.IsPlain (Text.lower (Text.trim tag)) := by
  unfold ofTag? at named
  split at named
  case h_9 => cases named
  all_goals
    rename_i word
    rw [word]
    decide

theorem ofTag?_lower {tag : String} {stat : Stat} (named : ofTag? tag = some stat) :
    ofTag? (Text.lower tag) = some stat := by
  have word := Text.lower_trim_lower rfl (plain_of_ofTag? named)
  rw [← named]
  unfold ofTag?
  rw [word]

end Stat

namespace Change

def Happened (before after : Player) : Change → Prop
  | .stat name delta => ∃ n, before.stats.named? name = some n ∧
      after.stats.named? name = some (n + delta)
  | .itemGained item => before.holds item = false ∧ after.holds item = true
  | .itemLost item => before.holds item = true ∧ after.holds item = false
  | .flag name value => after.flags.get? name = some value
  | .reputation faction delta => delta ≠ 0 ∧
      after.standing faction = before.standing faction + delta

def Spares (before after : Player) : Change → Prop
  | .stat name _ => after = { before with stats := after.stats } ∧
      ∀ other, Stat.ofTag? name ≠ some other → after.stats.get other = before.stats.get other
  | .itemGained item | .itemLost item => after = { before with inventory := after.inventory } ∧
      ∀ other, other ≠ item → after.holds other = before.holds other
  | .flag name _ => after = { before with flags := after.flags } ∧
      ∀ other, other ≠ name → after.flags.get? other = before.flags.get? other
  | .reputation faction _ => after = { before with reputation := after.reputation } ∧
      ∀ other, other ≠ faction → after.standing other = before.standing other

/-- There is room for the change: a stat that is reported stays in the range of stats. -/
def HasRoom (before : Player) : Change → Prop
  | .stat name delta => ∀ n, before.stats.named? name = some n → Bounded.InRange (n + delta)
  | _ => True

end Change

namespace Player

/-- A player after a reward that changed nothing. Of a faction that was never met it may be on
record now that its standing is zero. -/
structure Unchanged (before after : Player) : Prop where
  others : after = { before with reputation := after.reputation }
  standing : ∀ faction, after.standing faction = before.standing faction

def Reports (p : Player) (changed : Player × Option Change) : Prop :=
  (changed.2 = none → p.Unchanged changed.1) ∧ ∀ change, changed.2 = some change →
    change.Spares p changed.1 ∧ (change.Happened p changed.1 ↔ change.HasRoom p)

variable (p : Player)

theorem unchanged_self : p.Unchanged p := ⟨rfl, fun _ => rfl⟩

theorem reports_none : p.Reports (p, none) := ⟨fun _ => p.unchanged_self, nofun⟩

theorem reports_some {p' : Player} {change : Change} (spares : change.Spares p p')
    (happened : change.Happened p p' ↔ change.HasRoom p) : p.Reports (p', some change) := by
  refine ⟨nofun, ?_⟩
  rintro _ ⟨⟩
  exact ⟨spares, happened⟩

theorem add_eq_iff {a b : Int} : Bounded.add a b = a + b ↔ Bounded.InRange (a + b) := by
  constructor
  · intro exactly
    rw [← exactly]
    exact Bounded.clamp_inRange _
  · exact Bounded.clamp_of_inRange

theorem reports_addStat (name : String) (delta : Int) : p.Reports (p.addStat name delta) := by
  unfold addStat
  split
  · exact p.reports_none
  · rename_i stat target
    have named : Stat.ofTag? name = some stat := by
      split at target
      · cases target
      · exact target
    have lower := Stat.ofTag?_lower named
    apply reports_some
    · refine ⟨rfl, fun other apart => ?_⟩
      rw [lower, Ne, Option.some.injEq, eq_comm] at apart
      rw [Stats.get_set, if_neg apart]
    · simp only [Change.Happened, Change.HasRoom, Stats.named?, lower, Option.map_some,
        Option.some.injEq, Stats.get_set, if_true, exists_eq_left', forall_eq']
      exact add_eq_iff

theorem reports_gainItem (item : String) : p.Reports (p.gainItem item) := by
  unfold gainItem
  split
  · exact p.reports_none
  · rename_i absent
    apply reports_some
    · refine ⟨rfl, fun other apart => ?_⟩
      rw [Bool.eq_iff_iff, holds, SortedSet.contains_insert_iff, or_iff_right apart, holds]
    · refine iff_of_true ⟨Bool.eq_false_iff.2 absent, ?_⟩ trivial
      exact SortedSet.contains_insert_iff.2 (.inl rfl)

theorem reports_loseItem (item : String) : p.Reports (p.loseItem item) := by
  unfold loseItem
  split
  · rename_i held
    apply reports_some
    · refine ⟨rfl, fun other apart => ?_⟩
      rw [Bool.eq_iff_iff, holds, SortedSet.contains_erase_iff, and_iff_right apart, holds]
    · refine iff_of_true ⟨held, ?_⟩ trivial
      rw [holds, Bool.eq_false_iff, Ne, SortedSet.contains_erase_iff]
      exact fun still => still.1 rfl
  · exact p.reports_none

theorem reports_setFlag (name : String) (value : Bool) : p.Reports (p.setFlag name value) := by
  apply reports_some
  · refine ⟨rfl, fun other apart => ?_⟩
    have elsewhere : compare other name ≠ .eq :=
      fun eq => apart (Std.LawfulEqCmp.eq_of_compare eq)
    exact (SortedMap.get?_insert ..).trans (if_neg elsewhere)
  · refine iff_of_true ?_ trivial
    exact (SortedMap.get?_insert ..).trans (if_pos Std.ReflCmp.compare_self)

theorem reports_adjustReputation (faction : String) (delta : Int) :
    p.Reports ((p.adjustReputation faction delta).1,
      if (p.adjustReputation faction delta).2 = 0 then none
      else some (.reputation faction (p.adjustReputation faction delta).2)) := by
  have moved := p.standing_adjustReputation faction delta
  split
  · rename_i unmoved
    refine ⟨fun _ => ⟨rfl, fun other => ?_⟩, nofun⟩
    rw [moved, unmoved, Int.add_zero, Function.update_eq_self]
  · rename_i some_left
    apply reports_some
    · refine ⟨rfl, fun other apart => ?_⟩
      rw [moved, Function.update_of_ne apart]
    · refine iff_of_true ⟨some_left, ?_⟩ trivial
      rw [moved, Function.update_self]

theorem reports_applyReward (w : Reward) : p.Reports (p.applyReward w) := by
  unfold applyReward
  cases w.kind with
  | experience | gold | stat => exact p.reports_addStat _ _
  | item =>
    dsimp only
    split
    · exact p.reports_loseItem _
    · exact p.reports_gainItem _
  | flag => exact p.reports_setFlag _ _
  | reputation => exact p.reports_adjustReputation _ _

/-- A reward that nothing is reported of changes nothing. What is reported is all that changes, and
it has changed in just that way except where a stat had no room for the amount. -/
theorem rewards_reported (w : Reward) :
    ((p.applyReward w).2 = none → p.Unchanged (p.applyReward w).1) ∧
    ∀ change, (p.applyReward w).2 = some change →
      change.Spares p (p.applyReward w).1 ∧
      (change.Happened p (p.applyReward w).1 ↔ change.HasRoom p) :=
  p.reports_applyReward w

def bounty : Reward := { kind := .gold, amount := 10.0 }

theorem applyReward_bounty : p.applyReward bounty = p.addStat "gold" 10 := by
  have amount : roundToInt 10.0 = 10 := by decide +kernel
  rw [← amount]
  rfl

theorem bounty_reported : ∃ change, (({} : Player).applyReward bounty).2 = some change ∧
    change.Happened {} (({} : Player).applyReward bounty).1 := by
  have reported : (({} : Player).applyReward bounty).2 = some (.stat "gold" 10) := by
    rw [applyReward_bounty]
    rfl
  obtain ⟨_, told⟩ := rewards_reported {} bounty
  refine ⟨_, reported, (told _ reported).2.2 ?_⟩
  rintro _ ⟨⟩
  decide

def miser : Player := { stats := { gold := Bounded.greatest - 7 } }

theorem bounty_overreported : ¬ ∀ (p : Player) (w : Reward) (change : Change),
    (∀ stat, Bounded.InRange (p.stats.get stat)) → p.Balanced →
    (p.applyReward w).2 = some change → change.Happened p (p.applyReward w).1 := by
  intro always
  have fits : ∀ stat, Bounded.InRange (miser.stats.get stat) := by
    intro stat
    cases stat <;> decide
  have unknown : -standingLimit ≤ 0 ∧ 0 ≤ standingLimit := by decide
  have balanced : miser.Balanced := ⟨fun _ => unknown, Alignment.isNormalized_default⟩
  have reported : (miser.applyReward bounty).2 = some (.stat "gold" 10) := by
    rw [applyReward_bounty]
    rfl
  have happened := always miser bounty _ fits balanced reported
  have room := ((miser.reports_applyReward bounty).2 _ reported).2.1 happened
  exact absurd (room _ rfl) (by decide)

end Player

end Storyline

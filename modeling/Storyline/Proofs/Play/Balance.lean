import Storyline.Play.Run
import Storyline.Proofs.Play.Ledger
import Storyline.Proofs.Player.Decoding

/-!
Players in balance: standing within its limits, an alignment that adds up to one hundred. Each
change that is made to such a player leaves one, and the event of the change tells all that the
ledger has of it; where there is no event the ledger is the same.
-/
namespace Storyline

namespace Alignment

structure IsNormalized (a : Alignment) : Prop where
  good : 0 ≤ a.good
  neutral : 0 ≤ a.neutral
  evil : 0 ≤ a.evil
  total : a.good + a.neutral + a.evil = 100

theorem isNormalized_default : IsNormalized {} := by
  constructor <;> decide

/-- Two shares of a whole, rounded down, leave something for the third. -/
theorem shares_le {a b total : Int} (positive : 0 < total) (fits : a + b ≤ total) :
    a * 100 / total + b * 100 / total ≤ 100 := by
  have first := Int.ediv_mul_le (a * 100) (Int.ne_of_gt positive)
  have second := Int.ediv_mul_le (b * 100) (Int.ne_of_gt positive)
  have product : (a * 100 / total + b * 100 / total) * total ≤ 100 * total := by
    rw [Int.add_mul]
    omega
  exact Int.le_of_mul_le_mul_right product positive

theorem isNormalized_renormalize (a : Alignment) : a.renormalize.IsNormalized := by
  unfold renormalize
  dsimp only
  split
  · exact isNormalized_default
  · rename_i some_left
    have positive : 0 < max a.good 0 + max a.neutral 0 + max a.evil 0 := by omega
    have fits : max a.good 0 + max a.neutral 0 ≤ max a.good 0 + max a.neutral 0 + max a.evil 0 := by
      omega
    have rest := shares_le positive fits
    have good : 0 ≤ max a.good 0 * 100 / (max a.good 0 + max a.neutral 0 + max a.evil 0) :=
      Int.ediv_nonneg (by omega) (by omega)
    have neutral : 0 ≤ max a.neutral 0 * 100 / (max a.good 0 + max a.neutral 0 + max a.evil 0) :=
      Int.ediv_nonneg (by omega) (by omega)
    exact ⟨good, neutral, by dsimp only; omega, by dsimp only; omega⟩

/-- Differences that stay in range are exact. -/
structure IsStep (delta : Alignment) : Prop where
  good : -100 ≤ delta.good ∧ delta.good ≤ 100
  neutral : -100 ≤ delta.neutral ∧ delta.neutral ≤ 100
  evil : -100 ≤ delta.evil ∧ delta.evil ≤ 100

theorem IsNormalized.isStep {a : Alignment} (h : a.IsNormalized) : a.IsStep := by
  obtain ⟨good, neutral, evil, total⟩ := h
  exact ⟨by omega, by omega, by omega⟩

theorem diff_eq {a b : Alignment} (ha : a.IsNormalized) (hb : b.IsNormalized) :
    a.diff b = ⟨a.good - b.good, a.neutral - b.neutral, a.evil - b.evil⟩ := by
  obtain ⟨g, n, e, t⟩ := ha
  obtain ⟨g', n', e', t'⟩ := hb
  have exact_sub : ∀ {x y : Int}, 0 ≤ x → x ≤ 100 → 0 ≤ y → y ≤ 100 →
      Bounded.sub x y = x - y := by
    intro x y hx hx' hy hy'
    exact Bounded.clamp_of_inRange (Bounded.inRange_of_small (by omega))
  rw [diff, exact_sub g (by omega) g' (by omega), exact_sub n (by omega) n' (by omega),
    exact_sub e (by omega) e' (by omega)]

theorem isStep_diff {a b : Alignment} (ha : a.IsNormalized) (hb : b.IsNormalized) :
    (a.diff b).IsStep := by
  rw [diff_eq ha hb]
  obtain ⟨g, n, e, t⟩ := ha
  obtain ⟨g', n', e', t'⟩ := hb
  constructor <;> dsimp only <;> omega

theorem isZero_iff {a : Alignment} : a.isZero = true ↔ a = .zero := by
  simp [isZero, zero, Alignment.ext_iff, and_assoc]

theorem eq_of_isZero_diff {a b : Alignment} (ha : a.IsNormalized) (hb : b.IsNormalized)
    (same : (a.diff b).isZero = true) : a = b := by
  have differ := diff_eq ha hb
  rw [isZero_iff.1 same, zero, Alignment.mk.injEq] at differ
  ext <;> omega

theorem IsStep.storable {a : Alignment} (h : a.IsStep) : a.Storable := by
  have inRange {n : Int} (step : -100 ≤ n ∧ n ≤ 100) : Bounded.InRange n :=
    Bounded.inRange_of_small (by omega)
  exact ⟨inRange h.good, inRange h.neutral, inRange h.evil⟩

end Alignment

namespace Player

structure Balanced (p : Player) : Prop where
  standing : ∀ faction, -standingLimit ≤ p.standing faction ∧ p.standing faction ≤ standingLimit
  alignment : p.alignment.IsNormalized

/-- A change tells what it does to the ledger. Quests are kept apart: the status may be any. -/
def Accounts (p : Player) (changed : Player × Option Change) : Prop :=
  ∀ time : Nat, p.Balanced → changed.1.Balanced ∧ ∀ status,
    Ledger.Follows { p.ledger with status }
      (changed.2.toList.map (Run.changeEvent changed.1 time)) { changed.1.ledger with status }

variable (p : Player)

theorem accounts_addStat (name : String) (delta : Int) : p.Accounts (p.addStat name delta) := by
  intro time balanced
  unfold addStat
  split
  · exact ⟨balanced, fun _ => .of_eq rfl⟩
  · exact ⟨⟨balanced.standing, balanced.alignment⟩, fun _ => .single rfl trivial rfl⟩

theorem accounts_gainItem (item : String) : p.Accounts (p.gainItem item) := by
  intro time balanced
  unfold gainItem
  split
  · exact ⟨balanced, fun _ => .of_eq rfl⟩
  · rename_i absent
    have absent : p.inventory.contains item = false := by simpa using absent
    exact ⟨⟨balanced.standing, balanced.alignment⟩, fun _ => .single rfl absent rfl⟩

theorem accounts_loseItem (item : String) : p.Accounts (p.loseItem item) := by
  intro time balanced
  unfold loseItem
  split
  · rename_i held
    exact ⟨⟨balanced.standing, balanced.alignment⟩, fun _ => .single rfl held rfl⟩
  · exact ⟨balanced, fun _ => .of_eq rfl⟩

theorem accounts_setFlag (name : String) (value : Bool) : p.Accounts (p.setFlag name value) := by
  intro time balanced
  exact ⟨⟨balanced.standing, balanced.alignment⟩, fun _ => .single rfl trivial rfl⟩

theorem standing_adjustReputation (faction : String) (delta : Int) :
    (p.adjustReputation faction delta).1.standing = Function.update p.standing faction
      (p.standing faction + (p.adjustReputation faction delta).2) := by
  funext other
  by_cases here : other = faction
  · subst here
    simp only [adjustReputation, standing, SortedMap.getD, SortedMap.get?_insert,
      Std.ReflCmp.compare_self, if_true, Option.getD_some, Function.update_self]
    omega
  · have elsewhere : compare other faction ≠ .eq :=
      fun eq => here (Std.LawfulEqCmp.eq_of_compare eq)
    simp [adjustReputation, standing, SortedMap.getD, here, elsewhere]

theorem clampStanding_le (n : Int) :
    -standingLimit ≤ clampStanding n ∧ clampStanding n ≤ standingLimit := by
  unfold clampStanding standingLimit
  omega

theorem balanced_adjustReputation (faction : String) (delta : Int) (balanced : p.Balanced) :
    (p.adjustReputation faction delta).1.Balanced := by
  refine ⟨fun other => ?_, balanced.alignment⟩
  rw [standing_adjustReputation]
  by_cases here : other = faction
  · subst here
    have after : p.standing other + (p.adjustReputation other delta).2 =
        clampStanding (Bounded.add (p.standing other) delta) := by
      simp only [adjustReputation]
      omega
    rw [Function.update_self, after]
    exact clampStanding_le _
  · rw [Function.update_of_ne here]
    exact balanced.standing other

theorem account?_reputation {p : Player} {faction : String} {delta : Int} (time : Nat)
    (standing : -standingLimit ≤ p.standing faction ∧ p.standing faction ≤ standingLimit)
    (step : -2 * standingLimit ≤ delta ∧ delta ≤ 2 * standingLimit) :
    (Run.changeEvent p time (.reputation faction delta)).account? =
      some (.stands faction delta (p.standing faction)) := by
  unfold standingLimit at standing step
  have first : Json.integer? (.integer delta) = some delta :=
    Json.integer?_integer (Bounded.inRange_of_small (by omega))
  have second : Json.integer? (.integer (p.standing faction)) = some (p.standing faction) :=
    Json.integer?_integer (Bounded.inRange_of_small (by omega))
  change (do
    return Ledger.Entry.stands faction (← Json.integer? (.integer delta))
      (← Json.integer? (.integer (p.standing faction)))) = _
  rw [first, second]
  rfl

theorem accounts_adjustReputation (faction : String) (delta : Int) :
    p.Accounts ((p.adjustReputation faction delta).1,
      if (p.adjustReputation faction delta).2 = 0 then none
      else some (.reputation faction (p.adjustReputation faction delta).2)) := by
  intro time balanced
  have after := balanced_adjustReputation p faction delta balanced
  refine ⟨after, fun status => ?_⟩
  have moved := standing_adjustReputation p faction delta
  have here := balanced.standing faction
  have there := after.standing faction
  have landed := congrFun moved faction
  rw [Function.update_self] at landed
  have same : { (p.adjustReputation faction delta).1.ledger with status } =
      { p.ledger with
        status
        standing := Function.update p.standing faction
          (p.standing faction + (p.adjustReputation faction delta).2) } := by
    rw [← moved]
    rfl
  split
  · -- at the limit nothing is left of the shift, and nothing is told
    rename_i unmoved
    rw [same, unmoved]
    refine .of_eq ?_
    simp [ledger]
  · rename_i some_left
    refine .single (account?_reputation time there (by omega)) ⟨some_left, landed⟩ ?_
    rw [same]
    rfl

theorem accounts_applyReward (r : Reward) : p.Accounts (p.applyReward r) := by
  unfold applyReward
  cases r.kind with
  | experience => exact p.accounts_addStat _ _
  | gold => exact p.accounts_addStat _ _
  | stat => exact p.accounts_addStat _ _
  | item =>
    dsimp only
    split
    · exact p.accounts_loseItem _
    · exact p.accounts_gainItem _
  | flag => exact p.accounts_setFlag _ _
  | reputation => exact p.accounts_adjustReputation _ _

theorem ledger_updateLevel : p.updateLevel.1.ledger = p.ledger := by
  unfold updateLevel
  dsimp only
  split <;> rfl

theorem Balanced.congr {p p' : Player} {status : RecordId → QuestStatus} (balanced : p.Balanced)
    (same : { p'.ledger with status } = { p.ledger with status }) : p'.Balanced := by
  have standing : p'.standing = p.standing := congrArg Ledger.standing same
  have alignment : p'.alignment = p.alignment := congrArg Ledger.alignment same
  refine ⟨?_, ?_⟩
  · rw [standing]
    exact balanced.standing
  · rw [alignment]
    exact balanced.alignment

end Player

theorem Ledger.Follows.turn {l : Ledger} {a : Alignment} {e : Event}
    (before : l.alignment.IsNormalized) (after : a.IsNormalized)
    (moved : ¬ (a.diff l.alignment).isZero = true) (kind : e.kind = .alignmentChange)
    (data : e.data = .object
      [("delta", (a.diff l.alignment).toJson), ("alignment", a.toJson)]) :
    Follows l [e] { l with alignment := a } := by
  have delta := Alignment.ofJson?_toJson (Alignment.isStep_diff after before).storable
  have reached := Alignment.ofJson?_toJson after.isStep.storable
  have read : e.account? = some (.leans (a.diff l.alignment) a) := by
    rw [Event.account?, kind]
    dsimp only
    rw [Event.field?, Event.field?, data]
    change (do
      return Entry.leans (← Alignment.ofJson? (a.diff l.alignment).toJson)
        (← Alignment.ofJson? a.toJson)) = _
    rw [delta, reached]
    rfl
  refine .single read ⟨fun zero => moved (Alignment.isZero_iff.2 zero), ?_⟩ rfl
  rw [Alignment.diff_eq after before]
  exact ⟨rfl, rfl, rfl⟩

end Storyline

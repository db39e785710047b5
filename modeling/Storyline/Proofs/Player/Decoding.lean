import Storyline.Player.Basic
import Storyline.Proofs.Json.Record

/-!
Players as documents. What is written of a player is read as that player again, provided that the
numbers fit the words that hold them.
-/
namespace Storyline

namespace Stats

def InRange (s : Stats) : Prop := ∀ stat, Bounded.InRange (s.get stat)

theorem InRange.set {s : Stats} (h : s.InRange) (stat : Stat) {n : Int}
    (fits : Bounded.InRange n) : (s.set stat n).InRange := by
  intro other
  rw [get_set]
  split
  · exact fits
  · exact h other

theorem ofJson?_toJson {s : Stats} (fits : s.InRange) : ofJson? s.toJson = some s := by
  have health := Json.integer?_integer (fits .health)
  have mana := Json.integer?_integer (fits .mana)
  have experience := Json.integer?_integer (fits .experience)
  have level := Json.integer?_integer (fits .level)
  have gold := Json.integer?_integer (fits .gold)
  simp only [get] at health mana experience level gold
  rw [ofJson?, toJson, Json.row?_object]
  · simp [-Option.bind_eq_bind, health, mana, experience, level, gold]
  · rfl
  · decide

end Stats

namespace Alignment

structure Storable (a : Alignment) : Prop where
  good : Bounded.InRange a.good
  neutral : Bounded.InRange a.neutral
  evil : Bounded.InRange a.evil

theorem ofJson?_toJson {a : Alignment} (fits : a.Storable) : ofJson? a.toJson = some a := by
  have good := Json.integer?_integer fits.good
  have neutral := Json.integer?_integer fits.neutral
  have evil := Json.integer?_integer fits.evil
  rw [ofJson?, toJson, Json.row?_object]
  · simp [-Option.bind_eq_bind, good, neutral, evil]
  · rfl
  · decide

end Alignment

theorem QuestStatus.ofName?_name (s : QuestStatus) : ofName? s.name = some s := by
  cases s <;> rfl

namespace QuestProgress

def Storable (p : QuestProgress) : Prop := p.percent ≤ 255

instance (p : QuestProgress) : Decidable p.Storable := inferInstanceAs (Decidable (_ ≤ _))

theorem ofJson?_toJson {p : QuestProgress} (fits : p.Storable) : ofJson? p.toJson = some p := by
  have percent : Json.natural? 255 (.integer p.percent) = some p.percent :=
    Json.natural?_integer fits
  have objectives : Json.namedMap? Json.flag? (Json.ofNamedMap .bool p.objectives) =
      some p.objectives := Json.namedMap?_ofNamedMap fun _ _ => rfl
  rw [ofJson?, toJson, Json.row?_object]
  · simp [-Option.bind_eq_bind, Json.tag?,
      QuestStatus.ofName?_name, percent, objectives]
  · rfl
  · decide

end QuestProgress

namespace Player

structure Storable (p : Player) : Prop where
  stats : p.stats.InRange
  reputation : ∀ e ∈ p.reputation.entries, Bounded.InRange e.2
  alignment : p.alignment.Storable
  quests : ∀ e ∈ p.quests.entries, e.2.Storable

theorem ofJson?_toJson {p : Player} (fits : p.Storable) : ofJson? p.toJson = some p := by
  have stats := Stats.ofJson?_toJson fits.stats
  have reputation : Json.namedMap? Json.integer? (Json.ofNamedMap .integer p.reputation) =
      some p.reputation :=
    Json.namedMap?_ofNamedMap fun e here => Json.integer?_integer (fits.reputation e here)
  have alignment := Alignment.ofJson?_toJson fits.alignment
  have inventory : Json.listOf? Json.text? (.array (p.inventory.elements.map .string)) =
      some p.inventory.elements := Json.listOf?_array fun _ _ => rfl
  have flags : Json.namedMap? Json.flag? (Json.ofNamedMap .bool p.flags) = some p.flags :=
    Json.namedMap?_ofNamedMap fun _ _ => rfl
  have quests : Json.namedMap? QuestProgress.ofJson?
      (Json.ofNamedMap QuestProgress.toJson p.quests) = some p.quests :=
    Json.namedMap?_ofNamedMap fun e here => QuestProgress.ofJson?_toJson (fits.quests e here)
  rw [ofJson?, toJson, Json.row?_object]
  · simp [-Option.bind_eq_bind,
      Json.text?, stats, reputation, alignment, inventory, flags, quests,
      Json.optional?_ofOptional_string, SortedSet.ofList_elements]
  · rfl
  · decide

end Player

end Storyline

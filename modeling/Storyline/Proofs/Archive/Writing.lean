import Storyline.Proofs.Archive.Decoding
import Storyline.Proofs.Json.Text

/-!
Stored texts. All that is written of a transcript beside the data of its events is whole numbers
that fit their words, names and texts, so the text of it is read as the transcript that was written
whenever that holds of the data too and they are not nested too deeply.
-/
namespace Storyline

namespace Json

theorem fitsWord_natural {n : Nat} (small : n ≤ Bounded.greatestWord) : FitsWord n := by
  unfold FitsWord Bounded.least
  omega

theorem exact_natural {n : Nat} (small : n ≤ Bounded.greatestWord) : Exact (.integer n) :=
  .integer (fitsWord_natural small)

theorem exact_integer {n : Int} (inRange : Bounded.InRange n) : Exact (.integer n) := by
  refine .integer ⟨inRange.1, ?_⟩
  have high := inRange.2
  unfold Bounded.greatest at high
  unfold Bounded.greatestWord
  omega

theorem exact_ofOptional (o : Option String) : Exact (ofOptional string o) := by
  cases o with
  | none => exact .null
  | some s => exact .string s

theorem exact_array {α : Type} {written : α → Json} {l : List α}
    (each : ∀ a ∈ l, Exact (written a)) : Exact (.array (l.map written)) := by
  refine .array fun j here => ?_
  obtain ⟨a, inside, rfl⟩ := List.mem_map.1 here
  exact each a inside

theorem exact_ofNamedMap {α : Type} {written : α → Json} {m : SortedMap String α}
    (each : ∀ e ∈ m.entries, Exact (written e.2)) : Exact (ofNamedMap written m) := by
  refine .object fun f here => ?_
  obtain ⟨e, inside, rfl⟩ := List.mem_map.1 here
  exact each e inside

end Json

open Json (Exact exact_natural exact_integer exact_ofOptional exact_array exact_ofNamedMap)

theorem Stats.exact_toJson {s : Stats} (fits : s.InRange) : Exact s.toJson := by
  have health := exact_integer (fits .health)
  have mana := exact_integer (fits .mana)
  have experience := exact_integer (fits .experience)
  have level := exact_integer (fits .level)
  have gold := exact_integer (fits .gold)
  simp only [get] at health mana experience level gold
  apply Exact.object
  simp [health, mana, experience, level, gold]

theorem Alignment.exact_toJson {a : Alignment} (fits : a.Storable) : Exact a.toJson := by
  apply Exact.object
  simp [exact_integer fits.good, exact_integer fits.neutral, exact_integer fits.evil]

theorem QuestProgress.exact_toJson {p : QuestProgress} (fits : p.Storable) : Exact p.toJson := by
  have percent : Exact (.integer p.percent) := by
    apply exact_natural
    unfold Storable at fits
    unfold Bounded.greatestWord
    omega
  have objectives : Exact (Json.ofNamedMap .bool p.objectives) :=
    exact_ofNamedMap fun e _ => .bool e.2
  apply Exact.object
  simp [Exact.string, percent, objectives]

theorem Player.exact_toJson {p : Player} (fits : p.Storable) : Exact p.toJson := by
  have stats := Stats.exact_toJson fits.stats
  have reputation : Exact (Json.ofNamedMap .integer p.reputation) :=
    exact_ofNamedMap fun e here => exact_integer (fits.reputation e here)
  have alignment := Alignment.exact_toJson fits.alignment
  have inventory : Exact (.array (p.inventory.elements.map .string)) :=
    exact_array fun s _ => .string s
  have flags : Exact (Json.ofNamedMap .bool p.flags) := exact_ofNamedMap fun e _ => .bool e.2
  have quests : Exact (Json.ofNamedMap QuestProgress.toJson p.quests) :=
    exact_ofNamedMap fun e here => QuestProgress.exact_toJson (fits.quests e here)
  apply Exact.object
  simp [Exact.string, exact_ofOptional, stats, reputation, alignment, inventory, flags, quests]

theorem Event.exact_toJson {e : Event} (fits : e.Storable) (data : Exact e.data) :
    Exact e.toJson := by
  apply Exact.object
  simp [Exact.string, exact_natural fits.id, exact_natural fits.timestamp, data]

namespace Transcript

theorem exact_toJson {t : Transcript} (fits : t.Storable) (data : ∀ e ∈ t.events, Exact e.data) :
    Exact t.toJson := by
  have initial := Player.exact_toJson fits.initial
  have final := Player.exact_toJson fits.final
  have events : Exact (.array (t.events.map Event.toJson)) :=
    exact_array fun e here => Event.exact_toJson (fits.events e here) (data e here)
  have experienceGained := exact_integer fits.experienceGained
  have reputationChanges : Exact (Json.ofNamedMap .integer t.reputationChanges) :=
    exact_ofNamedMap fun e here => exact_integer (fits.reputationChanges e here)
  have alignmentChanges := Alignment.exact_toJson fits.alignmentChanges
  apply Exact.object
  simp [Exact.string, exact_ofOptional, Difficulty.toJson, exact_natural fits.seed, initial, final,
    events, exact_natural fits.attempted, exact_natural fits.completed, exact_natural fits.failed,
    exact_natural fits.seconds, experienceGained, reputationChanges, alignmentChanges]

theorem read?_write {t : Transcript} (fits : t.Storable)
    (instant : Timestamp.read? t.createdAt.display = some t.createdAt)
    (data : ∀ e ∈ t.events, Exact e.data)
    (nesting : ∀ e ∈ t.events, e.data.depth + dataDepth ≤ depthLimit) :
    read? t.write = some t := by
  have document := Json.read?_pretty (exact_toJson fits data)
  have back := ofJson?_toJson fits instant
  simpa [read?, write, document, back] using nesting

theorem decode_write {t : Transcript} (fits : t.Storable)
    (instant : Timestamp.read? t.createdAt.display = some t.createdAt)
    (data : ∀ e ∈ t.events, Exact e.data)
    (nesting : ∀ e ∈ t.events, e.data.depth + dataDepth ≤ depthLimit) :
    Archive.decode t.write = .ok t := by
  rw [Archive.decode, read?_write fits instant data nesting]

/-- A transcript comes back from its document, the text of its instant being read as that instant;
and from the text of it, if the data of its events hold whole numbers only and are not nested too
deeply. -/
theorem stored_returns {t : Transcript} (fits : t.Storable)
    (instant : Timestamp.read? t.createdAt.display = some t.createdAt) :
    ofJson? t.toJson = some t ∧
      ((∀ e ∈ t.events, Exact e.data) →
        (∀ e ∈ t.events, e.data.depth + dataDepth ≤ depthLimit) → read? t.write = some t) :=
  ⟨ofJson?_toJson fits instant, read?_write fits instant⟩

/-- A short run, with a standing, a quest that failed half way and an event with data. -/
def keepsake : Transcript :=
  { id := .ofNumber 7
    project := none
    storyArc := some "arc"
    playerName := "Zoë \"the\" quiet"
    style := .diplomatic
    difficulty := .hard
    seed := 18446744073709551615
    initial := {}
    final :=
      { stats := { health := 90, experience := -5 }
        reputation := .ofList [("thieves", -8), ("guild", 5)]
        inventory := .ofList ["map"]
        flags := .ofList [("met", true)]
        quests := .ofList
          [("toll", { status := .failed, percent := 100, objectives := .ofList [("pay", false)] })]
        currentDialogue := some "gate" }
    events :=
      [{ id := 1, timestamp := 60, kind := .questStart, description := "Toll\n", tone := .warning
         data := .object [("choices", .array [.string "pay", .null]), ("delta", .integer (-3))] }]
    attempted := 1
    completed := 0
    failed := 1
    seconds := 60
    experienceGained := -5
    reputationChanges := .ofList [("guild", 5), ("thieves", -8)]
    alignmentChanges := ⟨1, -2, 1⟩
    termination := .noAvailableQuests
    createdAt := ⟨1704067200, 500000000⟩ }

theorem storable_keepsake : keepsake.Storable where
  seed := by decide
  initial := by
    refine ⟨fun stat => ?_, by decide, ?_, by decide⟩
    · cases stat <;> decide
    · constructor <;> decide
  final := by
    refine ⟨fun stat => ?_, by decide +kernel, ?_, by decide +kernel⟩
    · cases stat <;> decide
    · constructor <;> decide
  events := by
    intro e here
    obtain rfl := List.mem_singleton.1 here
    exact ⟨by decide, by decide, rfl⟩
  attempted := by decide
  completed := by decide
  failed := by decide
  seconds := by decide
  experienceGained := by decide
  reputationChanges := by decide +kernel
  alignmentChanges := by constructor <;> decide

theorem instant_keepsake :
    Timestamp.read? keepsake.createdAt.display = some keepsake.createdAt := by
  decide +kernel

theorem exact_keepsake : ∀ e ∈ keepsake.events, Exact e.data := by
  intro e here
  obtain rfl := List.mem_singleton.1 here
  have delta : Exact (.integer (-3)) := exact_integer (by decide)
  have choices : Exact (.array [.string "pay", .null]) := by
    apply Exact.array
    simp [Exact.string, Exact.null]
  apply Exact.object
  simp [choices, delta]

theorem keepsake_returns :
    keepsake.Storable ∧ Timestamp.read? keepsake.createdAt.display = some keepsake.createdAt ∧
      ofJson? keepsake.toJson = some keepsake ∧ read? keepsake.write = some keepsake := by
  have returns := stored_returns storable_keepsake instant_keepsake
  exact ⟨storable_keepsake, instant_keepsake, returns.1, returns.2 exact_keepsake (by decide)⟩

end Transcript

end Storyline

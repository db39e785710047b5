import Storyline.Proofs.Archive.Naming
import Storyline.Proofs.Player.Decoding

/-!
Transcripts as documents. A transcript whose numbers fit their words is read again as it was
written, with the players, the events and their data, the names of all that is chosen from a list,
and what is absent.
-/
namespace Storyline

theorem EventKind.ofName?_name (k : EventKind) : ofName? k.name = some k := by
  cases k <;> decide

theorem EventTone.ofName?_name (t : EventTone) : ofName? t.name = some t := by
  cases t <;> rfl

theorem PlayStyle.ofName?_name (s : PlayStyle) : ofName? s.name = some s := by
  cases s <;> decide

theorem Difficulty.ofName?_name (d : Difficulty) : ofName? d.name = some d := by
  cases d <;> rfl

theorem Termination.ofName?_name (t : Termination) : ofName? t.name = some t := by
  cases t <;> rfl

namespace Event

structure Storable (e : Event) : Prop where
  id : e.id ≤ Bounded.greatestWord
  timestamp : e.timestamp ≤ Bounded.greatestWord
  data : e.data.isReadable = true

theorem ofJson?_toJson {e : Event} (fits : e.Storable) : ofJson? e.toJson = some e := by
  have id := Json.word?_integer fits.id
  have timestamp := Json.word?_integer fits.timestamp
  have data : data? e.data = some e.data := if_pos fits.data
  rw [ofJson?, toJson, Json.row?_object]
  · simp [-Option.bind_eq_bind, Json.tag?, Json.text?,
      EventKind.ofName?_name, EventTone.ofName?_name, id, timestamp, data]
  · rfl
  · decide

end Event

namespace Transcript

/-- The numbers fit their words, and so do those of the players and of the events. -/
structure Storable (t : Transcript) : Prop where
  seed : t.seed ≤ Bounded.greatestWord
  initial : t.initial.Storable
  final : t.final.Storable
  events : ∀ e ∈ t.events, e.Storable
  attempted : t.attempted ≤ Bounded.greatestWord
  completed : t.completed ≤ Bounded.greatestWord
  failed : t.failed ≤ Bounded.greatestWord
  seconds : t.seconds ≤ Bounded.greatestWord
  experienceGained : Bounded.InRange t.experienceGained
  reputationChanges : ∀ e ∈ t.reputationChanges.entries, Bounded.InRange e.2
  alignmentChanges : t.alignmentChanges.Storable

theorem uuid?_string (u : Uuid) : uuid? (.string u.display) = some u := by
  simp only [uuid?, Json.text?, Option.bind_some, Uuid.read?_display]

theorem ofJson?_toJson {t : Transcript} (fits : t.Storable)
    (instant : Timestamp.read? t.createdAt.display = some t.createdAt) :
    ofJson? t.toJson = some t := by
  have seed := Json.word?_integer fits.seed
  have initial := Player.ofJson?_toJson fits.initial
  have final := Player.ofJson?_toJson fits.final
  have events : Json.listOf? Event.ofJson? (.array (t.events.map Event.toJson)) = some t.events :=
    Json.listOf?_array fun e here => Event.ofJson?_toJson (fits.events e here)
  have attempted := Json.word?_integer fits.attempted
  have completed := Json.word?_integer fits.completed
  have failed := Json.word?_integer fits.failed
  have seconds := Json.word?_integer fits.seconds
  have experienceGained := Json.integer?_integer fits.experienceGained
  have reputationChanges : Json.namedMap? Json.integer?
      (Json.ofNamedMap .integer t.reputationChanges) = some t.reputationChanges :=
    Json.namedMap?_ofNamedMap fun e here => Json.integer?_integer (fits.reputationChanges e here)
  have alignmentChanges := Alignment.ofJson?_toJson fits.alignmentChanges
  have difficulty : Difficulty.ofJson? t.difficulty.toJson = some t.difficulty :=
    t.difficulty.ofName?_name
  have createdAt : timestamp? (.string t.createdAt.display) = some t.createdAt := by
    simp only [timestamp?, Json.text?, Option.bind_some, instant]
  rw [ofJson?, toJson, Json.row?_object]
  · simp [-Option.bind_eq_bind, Json.tag?, Json.text?,
      Json.optional?_ofOptional_string, PlayStyle.ofName?_name, Termination.ofName?_name,
      uuid?_string, seed, initial, final, events, attempted, completed, failed, seconds,
      experienceGained, reputationChanges, alignmentChanges, difficulty, createdAt]
  · rfl
  · decide

end Transcript

end Storyline

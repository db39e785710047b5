import Storyline.Proofs.Content.Renewal

/-!
Projects that are written and read again. All that is written of a project is sound, so its texts
are read as its JSON value with the reals replaced, and that as the project with its numbers
replaced. What is read from a text holds finite numbers, so it comes back from its JSON value as it
is. From its text it need not: reading a number rounds twice, so a number can drift when it is read
from the text that it was written as.
-/
namespace Storyline

open Json (Sound sound_ofNumber sound_ofOptional sound_array)

section Written

variable {gaps : Bool}

theorem Condition.Value.sound_toJson (v : Value) : Sound gaps v.toJson := by
  cases v with
  | bool b => exact .bool b
  | number x => exact sound_ofNumber x
  | text s => exact .string s

theorem sound_ofOptional_string (o : Option String) : Sound gaps (Json.ofOptional .string o) :=
  sound_ofOptional fun s _ => .string s

theorem AuthoredCondition.sound_toJson (c : AuthoredCondition) : Sound gaps c.toJson := by
  have value : Sound gaps (Json.ofOptional Condition.Value.toJson c.value) :=
    sound_ofOptional fun v _ => v.sound_toJson
  apply Sound.object
  simp [sound_ofOptional_string, value]

theorem Reward.sound_toJson (r : Reward) : Sound gaps r.toJson := by
  apply Sound.object
  simp [Sound.string, sound_ofNumber]

theorem Outcome.sound_toJson (o : Outcome) : Sound gaps o.toJson := by
  have conditions : Sound gaps (.array (o.conditions.map AuthoredCondition.toJson)) :=
    sound_array fun c _ => c.sound_toJson
  have rewards : Sound gaps (.array (o.rewards.map Reward.toJson)) :=
    sound_array fun r _ => r.sound_toJson
  apply Sound.object
  simp [Sound.string, sound_ofOptional_string, sound_ofNumber, conditions, rewards]

theorem Quest.sound_toJson {q : Quest} (short : ∀ n ∈ q.estimatedMinutes, n ≤ greatestMinutes) :
    Sound gaps q.toJson := by
  have minutes : Sound gaps (Json.ofOptional (fun (n : Nat) => .integer n) q.estimatedMinutes) := by
    refine sound_ofOptional fun n here => .integer ?_
    have few := short n here
    unfold greatestMinutes at few
    unfold Json.FitsWord Bounded.least Bounded.greatestWord
    omega
  have prerequisites : Sound gaps (.array (q.prerequisites.map AuthoredCondition.toJson)) :=
    sound_array fun c _ => c.sound_toJson
  have rewards : Sound gaps (.array (q.rewards.map Reward.toJson)) :=
    sound_array fun r _ => r.sound_toJson
  have outcomes : Sound gaps (.array (q.outcomes.map Outcome.toJson)) :=
    sound_array fun o _ => o.sound_toJson
  apply Sound.object
  simp [Sound.string, sound_ofOptional_string, QuestType.toJson, Difficulty.toJson, minutes,
    prerequisites, rewards, outcomes]

theorem StoryArc.sound_toJson (a : StoryArc) : Sound gaps a.toJson := by
  apply Sound.object
  simp [Sound.string]

theorem Dialogue.sound_toJson (d : Dialogue) : Sound gaps d.toJson := by
  have conditions : Sound gaps (.array (d.conditions.map AuthoredCondition.toJson)) :=
    sound_array fun c _ => c.sound_toJson
  apply Sound.object
  simp [Sound.string, sound_ofOptional_string, conditions]

theorem Character.sound_toJson (c : Character) : Sound gaps c.toJson := by
  have personality : Sound gaps (.array (c.personality.map .string)) :=
    sound_array fun s _ => .string s
  apply Sound.object
  simp [Sound.string, sound_ofOptional_string, personality]

theorem Project.sound_toJson {p : Project} (fits : p.Storable) : Sound gaps p.toJson := by
  have storyArcs : Sound gaps (.array (p.storyArcs.map StoryArc.toJson)) :=
    sound_array fun a _ => a.sound_toJson
  have quests : Sound gaps (.array (p.quests.map Quest.toJson)) :=
    sound_array fun q here => Quest.sound_toJson (fits.minutes q here)
  have dialogues : Sound gaps (.array (p.dialogues.map Dialogue.toJson)) :=
    sound_array fun d _ => d.sound_toJson
  have characters : Sound gaps (.array (p.characters.map Character.toJson)) :=
    sound_array fun c _ => c.sound_toJson
  apply Sound.object
  simp [Sound.string, sound_ofOptional_string, storyArcs, quests, dialogues, characters]

end Written

section Read

variable {gaps : Bool} {j : Json}

theorem Condition.Value.isFinite_of_ofJson? {v : Value} (sound : Sound gaps j)
    (read : ofJson? j = some v) : ∀ x ∈ v.numbers, x.isFinite = true := by
  unfold ofJson? at read
  split at read
  · cases read
    simp [numbers]
  · cases read
    simp [numbers]
  · obtain ⟨x, real, same⟩ := Option.map_eq_some_iff.1 read
    subst same
    exact List.forall_mem_singleton.2 (sound.number? real)

theorem AuthoredCondition.isFinite_of_ofJson? {c : AuthoredCondition} (sound : Sound gaps j)
    (read : ofJson? j = some c) : ∀ x ∈ c.numbers, x.isFinite = true := by
  simp only [ofJson?, Option.bind_eq_bind, Option.bind_eq_some_iff] at read
  obtain ⟨row, found, _, -, _, -, _, -, _, -, value, ofValue, _, -, same⟩ := read
  cases same
  cases value with
  | none => simp [numbers]
  | some v =>
    obtain absent | ⟨i, here, held⟩ :=
      Json.Row.withDefault_cases (Json.sound_row? sound found) ofValue
    · cases absent
    · exact Condition.Value.isFinite_of_ofJson? here (Json.value_of_optional? held)

theorem isFinite_of_number? {row : Json.Row} {name : String} {x : Float}
    (cells : ∀ c ∈ row.cells, Sound gaps c.2)
    (read : row.withDefault name 0.0 Json.number? = some x) : x.isFinite = true := by
  obtain rfl | ⟨i, here, held⟩ := Json.Row.withDefault_cases cells read
  · decide
  · exact here.number? held

theorem Reward.isFinite_of_ofJson? {r : Reward} (sound : Sound gaps j)
    (read : ofJson? j = some r) : ∀ x ∈ r.numbers, x.isFinite = true := by
  simp only [ofJson?, Option.bind_eq_bind, Option.bind_eq_some_iff] at read
  obtain ⟨row, found, _, -, _, -, amount, ofAmount, same⟩ := read
  cases same
  exact List.forall_mem_singleton.2 (isFinite_of_number? (Json.sound_row? sound found) ofAmount)

theorem exists_of_records {α : Type} {ofJson? : Json → Option α} {row : Json.Row} {name : String}
    {l : List α} (cells : ∀ c ∈ row.cells, Sound gaps c.2)
    (read : row.withDefault name [] (Json.listOf? ofJson?) = some l) :
    ∀ a ∈ l, ∃ i, Sound gaps i ∧ ofJson? i = some a := by
  obtain rfl | ⟨i, here, held⟩ := Json.Row.withDefault_cases cells read
  · simp
  · exact Json.exists_of_listOf? here held

theorem isFinite_of_records {α : Type} {ofJson? : Json → Option α} {numbers : α → List Float}
    {row : Json.Row} {name : String} {l : List α} (cells : ∀ c ∈ row.cells, Sound gaps c.2)
    (each : ∀ {i a}, Sound gaps i → ofJson? i = some a → ∀ x ∈ numbers a, x.isFinite = true)
    (read : row.withDefault name [] (Json.listOf? ofJson?) = some l) :
    ∀ x ∈ l.flatMap numbers, x.isFinite = true := by
  refine List.forall_mem_flatMap.2 fun a here => ?_
  obtain ⟨i, sound, held⟩ := exists_of_records cells read a here
  exact each sound held

theorem Outcome.isFinite_of_ofJson? {o : Outcome} (sound : Sound gaps j)
    (read : ofJson? j = some o) : ∀ x ∈ o.numbers, x.isFinite = true := by
  simp only [ofJson?, Option.bind_eq_bind, Option.bind_eq_some_iff] at read
  obtain ⟨row, found, _, -, _, -, _, -, cs, ofConditions, rs, ofRewards, _, -, probability,
    ofProbability, same⟩ := read
  cases same
  have cells := Json.sound_row? sound found
  have conditions := isFinite_of_records cells AuthoredCondition.isFinite_of_ofJson? ofConditions
  have rewards := isFinite_of_records cells Reward.isFinite_of_ofJson? ofRewards
  have likely := isFinite_of_number? cells ofProbability
  simp only [numbers, List.forall_mem_append, List.forall_mem_singleton]
  exact ⟨⟨conditions, rewards⟩, likely⟩

theorem natural?_le {bound n : Nat} (read : j.natural? bound = some n) : n ≤ bound := by
  unfold Json.natural? at read
  split at read
  · split at read
    next small =>
      cases read
      omega
    next => cases read
  · cases read

theorem Quest.isFinite_of_ofJson? {q : Quest} (sound : Sound gaps j)
    (read : ofJson? j = some q) :
    (∀ x ∈ q.numbers, x.isFinite = true) ∧ ∀ n ∈ q.estimatedMinutes, n ≤ greatestMinutes := by
  simp only [ofJson?, Option.bind_eq_bind, Option.bind_eq_some_iff] at read
  obtain ⟨row, found, _, -, _, -, _, -, _, -, _, -, _, -, minutes, ofMinutes, _, -, ps,
    ofPrerequisites, rs, ofRewards, os, ofOutcomes, same⟩ := read
  cases same
  have cells := Json.sound_row? sound found
  have prerequisites :=
    isFinite_of_records cells AuthoredCondition.isFinite_of_ofJson? ofPrerequisites
  have rewards := isFinite_of_records cells Reward.isFinite_of_ofJson? ofRewards
  have outcomes := isFinite_of_records cells Outcome.isFinite_of_ofJson? ofOutcomes
  simp only [numbers, List.forall_mem_append]
  refine ⟨⟨⟨prerequisites, rewards⟩, outcomes⟩, ?_⟩
  rintro n ⟨⟩
  obtain absent | ⟨i, -, held⟩ := Json.Row.withDefault_cases cells ofMinutes
  · cases absent
  · exact natural?_le (Json.value_of_optional? held)

theorem Dialogue.isFinite_of_ofJson? {d : Dialogue} (sound : Sound gaps j)
    (read : ofJson? j = some d) : ∀ x ∈ d.numbers, x.isFinite = true := by
  simp only [ofJson?, Option.bind_eq_bind, Option.bind_eq_some_iff] at read
  obtain ⟨row, found, _, -, _, -, _, -, _, -, _, -, cs, ofConditions, same⟩ := read
  cases same
  exact isFinite_of_records (Json.sound_row? sound found) AuthoredCondition.isFinite_of_ofJson?
    ofConditions

theorem Project.storable_of_ofJson? {p : Project} (sound : Sound gaps j)
    (read : ofJson? j = some p) : p.Storable := by
  simp only [ofJson?, Option.bind_eq_bind, Option.bind_eq_some_iff] at read
  obtain ⟨row, found, _, -, _, -, _, -, qs, ofQuests, ds, ofDialogues, _, -, same⟩ := read
  cases same
  have cells := Json.sound_row? sound found
  have quests : ∀ q ∈ qs, (∀ x ∈ q.numbers, x.isFinite = true) ∧
      ∀ n ∈ q.estimatedMinutes, n ≤ Quest.greatestMinutes := by
    intro q here
    obtain ⟨i, whole, held⟩ := exists_of_records cells ofQuests q here
    exact Quest.isFinite_of_ofJson? whole held
  have dialogues := isFinite_of_records cells Dialogue.isFinite_of_ofJson? ofDialogues
  constructor
  · refine List.forall_mem_append.2 ⟨?_, dialogues⟩
    exact List.forall_mem_flatMap.2 fun q here => (quests q here).1
  · exact fun q here => (quests q here).2

/-- Whatever document a project is read from, its numbers are finite and its minutes fit. -/
theorem Project.storable_of_read? {text : String} {p : Project} (read : read? text = some p) :
    p.Storable := by
  obtain ⟨j, document, held⟩ := Option.bind_eq_some_iff.1 read
  exact storable_of_ofJson? (Json.sound_read? document) held

end Read

namespace Project

def texts (p : Project) : List String := [p.toJson.compact, p.toJson.pretty]

theorem read?_texts {p : Project} (fits : p.Storable) :
    ∀ text ∈ p.texts, read? text = p.renew? Json.readBack? := by
  have sound : Sound false p.toJson := sound_toJson fits
  have same : (some (Json.reread Json.readBack? p.toJson)).bind ofJson? =
      p.renew? Json.readBack? :=
    ofJson?_reread Json.readBack? fits
  refine List.forall_mem_cons.2 ⟨?_, List.forall_mem_singleton.2 ?_⟩
  · rw [read?, Json.read?_compact sound, same]
  · rw [read?, Json.read?_pretty_of_sound sound, same]

structure Returns (p : Project) : Prop where
  /-- From its JSON value it comes back as it is. -/
  value : ofJson? p.toJson = some p
  /-- From its texts it comes back but for its numbers. -/
  text : ∀ text ∈ p.texts, read? text = p.renew? Json.readBack?
  /-- From its texts it comes back as it is just when each of its numbers does from its own. -/
  same_iff : ∀ text ∈ p.texts,
    (read? text = some p ↔ ∀ x ∈ p.numbers, Json.readBack? x = some x)

theorem returns_of_storable {p : Project} (fits : p.Storable) : p.Returns where
  value := ofJson?_toJson fits
  text := read?_texts fits
  same_iff text here := by rw [read?_texts fits text here, renew?_eq_self_iff]

/-- Every project whose numbers are finite comes back, and every project that was read is one. -/
theorem returns_rewritten (p : Project) :
    (p.Storable → p.Returns) ∧ ∀ text, read? text = some p → p.Storable ∧ p.Returns := by
  refine ⟨returns_of_storable, fun text read => ?_⟩
  have fits := storable_of_read? read
  exact ⟨fits, returns_of_storable fits⟩

/-- A quest of no known type, with another word for its difficulty, most of its fields left out, and
conditions of three kinds. -/
def toll : String :=
  "\x7b\"quests\":[\x7b\"id\":\"q\",\"type\":\"heist\",\"difficulty\":\"normal\",\"prerequisites\":
    [\x7b\"value\":true\x7d,\x7b\"value\":12.5\x7d,\x7b\"value\":\"50\"\x7d]\x7d]\x7d"

theorem toll_returns : ∃ p, read? toll = some p ∧ p.numbers = [12.5] ∧
    p.quests.map (fun q => (q.type, q.difficulty)) = [(.other, .medium)] ∧
    ofJson? p.toJson = some p ∧ ∀ text ∈ p.texts, read? text = some p := by
  obtain ⟨p, read, shape⟩ : ∃ p, read? toll = some p ∧
      (p.numbers, p.quests.map fun q => (q.type, q.difficulty)) =
        ([12.5], [(.other, .medium)]) :=
    Option.map_eq_some_iff.1 (by decide +kernel)
  obtain ⟨numbers, kinds⟩ := Prod.mk.inj shape
  obtain ⟨-, returns⟩ := (returns_rewritten p).2 toll read
  have back : ∀ x ∈ p.numbers, Json.readBack? x = some x := by
    rw [numbers]
    decide +kernel
  exact ⟨p, read, numbers, kinds, returns.value,
    fun text here => (returns.same_iff text here).2 back⟩

/-- A reward with more digits than a number keeps when it is read. -/
def hoard : String :=
  "\x7b\"quests\":[\x7b\"id\":\"q\",\"rewards\":
    [\x7b\"type\":\"gold\",\"amount\":7205759403792796\x7d]\x7d]\x7d"

/-- Its amount is written with a point, and read from that as the next number. -/
theorem hoard_drifts : ∃ p, read? hoard = some p ∧ p.numbers = [7205759403792796.0] ∧
    Json.readBack? 7205759403792796.0 = some 7205759403792797.0 ∧
    ∀ text ∈ p.texts, read? text ≠ some p := by
  obtain ⟨p, read, numbers⟩ : ∃ p, read? hoard = some p ∧ p.numbers = [7205759403792796.0] :=
    Option.map_eq_some_iff.1 (by decide +kernel)
  have next : Json.readBack? 7205759403792796.0 = some 7205759403792797.0 := by decide +kernel
  refine ⟨p, read, numbers, next, fun text here same => ?_⟩
  rw [read?_texts (storable_of_read? read) text here, renew?_eq_self_iff, numbers,
    List.forall_mem_singleton, next] at same
  exact absurd same (by decide +kernel)

end Project

end Storyline

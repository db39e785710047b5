import Storyline.Content.Project
import Storyline.Proofs.Json.Reread

/-!
The numbers of a project. A project that is read from its own JSON value, each real of it replaced,
is the project with its numbers replaced: nothing else of it changes.
-/
namespace Storyline

namespace Condition.Value

def numbers : Value → List Float
  | number x => [x]
  | _ => []

def renew? (back : Float → Option Float) : Value → Option Value
  | number x => (back x).map number
  | v => some v

end Condition.Value

namespace AuthoredCondition

def numbers (c : AuthoredCondition) : List Float := c.value.elim [] Condition.Value.numbers

def renew? (back : Float → Option Float) (c : AuthoredCondition) : Option AuthoredCondition := do
  return { c with value := ← c.value.elim (some none) fun v => (v.renew? back).map some }

end AuthoredCondition

namespace Reward

def numbers (r : Reward) : List Float := [r.amount]

def renew? (back : Float → Option Float) (r : Reward) : Option Reward := do
  return { r with amount := ← back r.amount }

end Reward

namespace Outcome

def numbers (o : Outcome) : List Float :=
  o.conditions.flatMap AuthoredCondition.numbers ++ o.rewards.flatMap Reward.numbers ++
    [o.probability]

def renew? (back : Float → Option Float) (o : Outcome) : Option Outcome := do
  return { o with
    conditions := ← o.conditions.mapM (AuthoredCondition.renew? back)
    rewards := ← o.rewards.mapM (Reward.renew? back)
    probability := ← back o.probability }

end Outcome

namespace Quest

def numbers (q : Quest) : List Float :=
  q.prerequisites.flatMap AuthoredCondition.numbers ++ q.rewards.flatMap Reward.numbers ++
    q.outcomes.flatMap Outcome.numbers

def renew? (back : Float → Option Float) (q : Quest) : Option Quest := do
  return { q with
    prerequisites := ← q.prerequisites.mapM (AuthoredCondition.renew? back)
    rewards := ← q.rewards.mapM (Reward.renew? back)
    outcomes := ← q.outcomes.mapM (Outcome.renew? back) }

end Quest

namespace Dialogue

def numbers (d : Dialogue) : List Float := d.conditions.flatMap AuthoredCondition.numbers

def renew? (back : Float → Option Float) (d : Dialogue) : Option Dialogue := do
  return { d with conditions := ← d.conditions.mapM (AuthoredCondition.renew? back) }

end Dialogue

namespace Project

def numbers (p : Project) : List Float :=
  p.quests.flatMap Quest.numbers ++ p.dialogues.flatMap Dialogue.numbers

def renew? (back : Float → Option Float) (p : Project) : Option Project := do
  return { p with
    quests := ← p.quests.mapM (Quest.renew? back)
    dialogues := ← p.dialogues.mapM (Dialogue.renew? back) }

/-- The numbers are finite, and the minutes fill a word at most. -/
structure Storable (p : Project) : Prop where
  numbers : ∀ x ∈ p.numbers, x.isFinite = true
  minutes : ∀ q ∈ p.quests, ∀ n ∈ q.estimatedMinutes, n ≤ Quest.greatestMinutes

end Project

section Unchanged

variable {back : Float → Option Float}

theorem mapM_renew?_eq_self_iff {α : Type} {renew : α → Option α} {numbers : α → List Float}
    (each : ∀ a, renew a = some a ↔ ∀ x ∈ numbers a, back x = some x) (l : List α) :
    l.mapM renew = some l ↔ ∀ x ∈ l.flatMap numbers, back x = some x := by
  rw [Json.mapM_eq_some_self_iff, List.forall_mem_flatMap]
  exact forall₂_congr fun a _ => each a

theorem Condition.Value.renew?_eq_self_iff (v : Value) :
    v.renew? back = some v ↔ ∀ x ∈ v.numbers, back x = some x := by
  cases v <;> simp [renew?, numbers]

theorem AuthoredCondition.renew?_eq_self_iff (c : AuthoredCondition) :
    c.renew? back = some c ↔ ∀ x ∈ c.numbers, back x = some x := by
  obtain ⟨subject, operator, target, quest, value, note⟩ := c
  cases value with
  | none => simp [renew?, numbers]
  | some v =>
    rw [numbers, Option.elim_some, ← Condition.Value.renew?_eq_self_iff]
    simp only [renew?, Option.elim_some, Option.bind_eq_bind, Option.bind_eq_some_iff,
      Option.map_eq_some_iff]
    constructor
    · rintro ⟨_, ⟨w, renewed, rfl⟩, same⟩
      cases same
      exact renewed
    · intro renewed
      exact ⟨_, ⟨v, renewed, rfl⟩, rfl⟩

theorem Reward.renew?_eq_self_iff (r : Reward) :
    r.renew? back = some r ↔ ∀ x ∈ r.numbers, back x = some x := by
  rw [numbers, List.forall_mem_singleton]
  cases r
  simp only [renew?, Option.bind_eq_bind, Option.bind_eq_some_iff]
  constructor
  · rintro ⟨x, hx, same⟩
    cases same
    exact hx
  · intro hx
    exact ⟨_, hx, rfl⟩

theorem Outcome.renew?_eq_self_iff (o : Outcome) :
    o.renew? back = some o ↔ ∀ x ∈ o.numbers, back x = some x := by
  rw [numbers, List.forall_mem_append, List.forall_mem_append, List.forall_mem_singleton,
    ← mapM_renew?_eq_self_iff AuthoredCondition.renew?_eq_self_iff,
    ← mapM_renew?_eq_self_iff Reward.renew?_eq_self_iff]
  cases o
  simp only [renew?, Option.bind_eq_bind, Option.bind_eq_some_iff]
  constructor
  · rintro ⟨cs, hc, rs, hr, x, hx, same⟩
    cases same
    exact ⟨⟨hc, hr⟩, hx⟩
  · rintro ⟨⟨hc, hr⟩, hx⟩
    exact ⟨_, hc, _, hr, _, hx, rfl⟩

theorem Quest.renew?_eq_self_iff (q : Quest) :
    q.renew? back = some q ↔ ∀ x ∈ q.numbers, back x = some x := by
  rw [numbers, List.forall_mem_append, List.forall_mem_append,
    ← mapM_renew?_eq_self_iff AuthoredCondition.renew?_eq_self_iff,
    ← mapM_renew?_eq_self_iff Reward.renew?_eq_self_iff,
    ← mapM_renew?_eq_self_iff Outcome.renew?_eq_self_iff]
  cases q
  simp only [renew?, Option.bind_eq_bind, Option.bind_eq_some_iff]
  constructor
  · rintro ⟨cs, hc, rs, hr, os, ho, same⟩
    cases same
    exact ⟨⟨hc, hr⟩, ho⟩
  · rintro ⟨⟨hc, hr⟩, ho⟩
    exact ⟨_, hc, _, hr, _, ho, rfl⟩

theorem Dialogue.renew?_eq_self_iff (d : Dialogue) :
    d.renew? back = some d ↔ ∀ x ∈ d.numbers, back x = some x := by
  rw [numbers, ← mapM_renew?_eq_self_iff AuthoredCondition.renew?_eq_self_iff]
  cases d
  simp only [renew?, Option.bind_eq_bind, Option.bind_eq_some_iff]
  constructor
  · rintro ⟨cs, hc, same⟩
    cases same
    exact hc
  · intro hc
    exact ⟨_, hc, rfl⟩

theorem Project.renew?_eq_self_iff (p : Project) :
    p.renew? back = some p ↔ ∀ x ∈ p.numbers, back x = some x := by
  rw [numbers, List.forall_mem_append, ← mapM_renew?_eq_self_iff Quest.renew?_eq_self_iff,
    ← mapM_renew?_eq_self_iff Dialogue.renew?_eq_self_iff]
  cases p
  simp only [renew?, Option.bind_eq_bind, Option.bind_eq_some_iff]
  constructor
  · rintro ⟨qs, hq, ds, hd, same⟩
    cases same
    exact ⟨hq, hd⟩
  · rintro ⟨hq, hd⟩
    exact ⟨_, hq, _, hd, rfl⟩

end Unchanged

/-! Records read from their own JSON values, with the reals replaced. -/

section Reread

open Json (reread)

variable (back : Float → Option Float)

theorem QuestType.ofName_name (t : QuestType) : ofName t.name = t := by
  cases t <;> decide

theorem RewardKind.ofName?_name (k : RewardKind) : ofName? k.name = some k := by
  cases k <;> decide

theorem OutcomeKind.ofName?_name (k : OutcomeKind) : ofName? k.name = some k := by
  cases k <;> decide

theorem Difficulty.ofJson?_toJson (d : Difficulty) : ofJson? d.toJson = some d := by
  cases d <;> rfl

/-- A value is read as the kind of value that was written: a number does not turn into a text. -/
theorem Condition.Value.ofJson?_reread {v : Value} (finite : ∀ x ∈ v.numbers, x.isFinite = true) :
    ofJson? (reread back v.toJson) = v.renew? back := by
  cases v with
  | number x =>
    have real : x.isFinite = true := finite x List.mem_cons_self
    rw [toJson, Json.ofNumber, if_pos real, reread, renew?]
    cases back x <;> rfl
  | _ => rfl

theorem Condition.Value.reread_toJson_ne_null {v : Value}
    (finite : ∀ x ∈ v.numbers, x.isFinite = true) : reread back v.toJson ≠ .null := by
  cases v with
  | number x =>
    have real : x.isFinite = true := finite x List.mem_cons_self
    rw [toJson, Json.ofNumber, if_pos real, reread]
    cases back x <;> exact Json.noConfusion
  | _ => exact Json.noConfusion

theorem Condition.Value.optional?_reread {o : Option Value}
    (finite : ∀ x ∈ o.elim [] numbers, x.isFinite = true) :
    Json.optional? ofJson? (reread back (Json.ofOptional toJson o)) =
      o.elim (some none) fun v => (v.renew? back).map some := by
  cases o with
  | none => rfl
  | some v =>
    have solid := reread_toJson_ne_null back finite
    rw [Json.ofOptional, Option.elim_some, ← ofJson?_reread back finite]
    generalize reread back v.toJson = j at solid
    cases j with
    | null => exact absurd rfl solid
    | _ => rfl

theorem AuthoredCondition.ofJson?_reread {c : AuthoredCondition}
    (finite : ∀ x ∈ c.numbers, x.isFinite = true) :
    ofJson? (reread back c.toJson) = c.renew? back := by
  have value := Condition.Value.optional?_reread back finite
  rw [toJson, reread, ofJson?, Json.row?_object]
  · simp [-Option.bind_eq_bind, Json.rereadFields, Json.Row.maybe,
      Json.optional?_ofOptional_string, value, renew?]
  · rfl
  · decide

theorem Reward.ofJson?_reread {r : Reward} (finite : ∀ x ∈ r.numbers, x.isFinite = true) :
    ofJson? (reread back r.toJson) = r.renew? back := by
  have amount := Json.number?_reread back (finite r.amount List.mem_cons_self)
  rw [toJson, reread, ofJson?, Json.row?_object]
  · simp [-Option.bind_eq_bind, Json.rereadFields, Json.tag?, Json.text?,
      RewardKind.ofName?_name, amount, renew?]
  · rfl
  · decide

theorem listOf?_renew? {α : Type} {ofJson? : Json → Option α} {toJson : α → Json}
    {renew? : α → Option α} {numbers : α → List Float}
    (each : ∀ {a}, (∀ x ∈ numbers a, x.isFinite = true) →
      ofJson? (reread back (toJson a)) = renew? a)
    {l : List α} (finite : ∀ x ∈ l.flatMap numbers, x.isFinite = true) :
    Json.listOf? ofJson? (reread back (.array (l.map toJson))) = l.mapM renew? :=
  Json.listOf?_reread back fun a here =>
    each (List.forall_mem_flatMap.1 finite a here)

theorem Outcome.ofJson?_reread {o : Outcome} (finite : ∀ x ∈ o.numbers, x.isFinite = true) :
    ofJson? (reread back o.toJson) = o.renew? back := by
  simp only [numbers, List.forall_mem_append, List.forall_mem_singleton] at finite
  obtain ⟨⟨ofConditions, ofRewards⟩, likely⟩ := finite
  have conditions := listOf?_renew? back (AuthoredCondition.ofJson?_reread back) ofConditions
  have rewards := listOf?_renew? back (Reward.ofJson?_reread back) ofRewards
  have probability := Json.number?_reread back likely
  rw [toJson, reread, ofJson?, Json.row?_object]
  · simp [-Option.bind_eq_bind, Json.rereadFields, Json.Row.maybe, Json.tag?, Json.text?,
      Json.optional?_ofOptional_string, OutcomeKind.ofName?_name, conditions, rewards, probability,
      renew?]
  · rfl
  · decide

theorem Quest.ofJson?_reread {q : Quest} (finite : ∀ x ∈ q.numbers, x.isFinite = true)
    (short : ∀ n ∈ q.estimatedMinutes, n ≤ greatestMinutes) :
    ofJson? (reread back q.toJson) = q.renew? back := by
  simp only [numbers, List.forall_mem_append] at finite
  obtain ⟨⟨ofPrerequisites, ofRewards⟩, ofOutcomes⟩ := finite
  have type : QuestType.ofJson? (reread back q.type.toJson) = some q.type :=
    congrArg some q.type.ofName_name
  have difficulty : Difficulty.ofJson? (reread back q.difficulty.toJson) = some q.difficulty :=
    q.difficulty.ofJson?_toJson
  have minutes : Json.optional? (Json.natural? greatestMinutes)
      (Json.ofOptional (fun (n : Nat) => .integer n) q.estimatedMinutes) =
        some q.estimatedMinutes :=
    Json.optional?_ofOptional (fun _ => Json.noConfusion) fun n here =>
      Json.natural?_integer (short n here)
  have prerequisites := listOf?_renew? back (AuthoredCondition.ofJson?_reread back) ofPrerequisites
  have rewards := listOf?_renew? back (Reward.ofJson?_reread back) ofRewards
  have outcomes := listOf?_renew? back (Outcome.ofJson?_reread back) ofOutcomes
  rw [toJson, reread, ofJson?, Json.row?_object]
  · simp [-Option.bind_eq_bind, Json.rereadFields, Json.Row.maybe, Json.text?,
      Json.optional?_ofOptional_string, type, difficulty, minutes, prerequisites, rewards, outcomes,
      renew?]
  · rfl
  · decide

theorem Dialogue.ofJson?_reread {d : Dialogue} (finite : ∀ x ∈ d.numbers, x.isFinite = true) :
    ofJson? (reread back d.toJson) = d.renew? back := by
  have conditions := listOf?_renew? back (AuthoredCondition.ofJson?_reread back) finite
  rw [toJson, reread, ofJson?, Json.row?_object]
  · simp [-Option.bind_eq_bind, Json.rereadFields, Json.Row.maybe, Json.text?,
      Json.optional?_ofOptional_string, conditions, renew?]
  · rfl
  · decide

theorem StoryArc.ofJson?_reread (a : StoryArc) : ofJson? (reread back a.toJson) = some a := by
  rw [toJson, reread, ofJson?, Json.row?_object]
  · simp [-Option.bind_eq_bind, Json.rereadFields, Json.text?]
  · rfl
  · decide

theorem Character.ofJson?_reread (c : Character) : ofJson? (reread back c.toJson) = some c := by
  have personality : Json.listOf? Json.text? (reread back (.array (c.personality.map .string))) =
      some c.personality :=
    Json.listOf?_reread_self back fun _ _ => rfl
  rw [toJson, reread, ofJson?, Json.row?_object]
  · simp [-Option.bind_eq_bind, Json.rereadFields, Json.Row.maybe, Json.text?,
      Json.optional?_ofOptional_string, personality]
  · rfl
  · decide

theorem Project.ofJson?_reread {p : Project} (fits : p.Storable) :
    ofJson? (reread back p.toJson) = p.renew? back := by
  obtain ⟨ofQuests, ofDialogues⟩ := List.forall_mem_append.1 fits.numbers
  have storyArcs : Json.listOf? StoryArc.ofJson?
      (reread back (.array (p.storyArcs.map StoryArc.toJson))) = some p.storyArcs :=
    Json.listOf?_reread_self back fun a _ => a.ofJson?_reread back
  have quests : Json.listOf? Quest.ofJson? (reread back (.array (p.quests.map Quest.toJson))) =
      p.quests.mapM (Quest.renew? back) :=
    Json.listOf?_reread back fun q here =>
      Quest.ofJson?_reread back (List.forall_mem_flatMap.1 ofQuests q here) (fits.minutes q here)
  have dialogues := listOf?_renew? back (Dialogue.ofJson?_reread back) ofDialogues
  have characters : Json.listOf? Character.ofJson?
      (reread back (.array (p.characters.map Character.toJson))) = some p.characters :=
    Json.listOf?_reread_self back fun c _ => c.ofJson?_reread back
  rw [toJson, reread, ofJson?, Json.row?_object]
  · simp [-Option.bind_eq_bind, Json.rereadFields, Json.Row.maybe, Json.text?,
      Json.optional?_ofOptional_string, storyArcs, quests, dialogues, characters, renew?]
  · rfl
  · decide

theorem Project.ofJson?_toJson {p : Project} (fits : p.Storable) : ofJson? p.toJson = some p := by
  have same := ofJson?_reread some fits
  rw [Json.reread_some] at same
  rw [same]
  exact p.renew?_eq_self_iff.2 fun _ _ => rfl

end Reread

end Storyline

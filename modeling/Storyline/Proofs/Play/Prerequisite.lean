import Mathlib.Data.List.Nodup
import Storyline.Proofs.Json.Record
import Storyline.Proofs.Play.Replay

/-!
Prerequisites of the quests that a run plays. A quest is picked only where all of them hold, so a
quest that is asked for has a successful end in the log by then. Quests that wait for one another in
a circle are never picked, nor those that wait for such quests. When a step finds nothing to play,
each quest that is left lacks a prerequisite. Nothing is said of prerequisites that held once and
hold no longer.
-/
namespace Storyline

open Relation

def Scenario.Needs (s : Scenario) (id required : RecordId) : Prop :=
  ∃ q ∈ s.quests, q.id = id ∧ ∃ c ∈ q.prerequisites, ∃ parsed,
    Condition.ofAuthored c = .ok parsed ∧ parsed.subject = .quest ∧ parsed.target = required

/-- What a quest needs, or what is needed for that, and so on, comes round to itself. -/
def Scenario.Entangled (s : Scenario) (id : RecordId) : Prop :=
  ∃ knot, ReflTransGen s.Needs id knot ∧ TransGen s.Needs knot knot

theorem Scenario.Entangled.needs {s : Scenario} {id : RecordId} (h : s.Entangled id) :
    ∃ required, s.Needs id required ∧ s.Entangled required := by
  obtain ⟨knot, leads, around⟩ := h
  cases leads.cases_head with
  | inl here =>
    subst here
    obtain ⟨next, needs, back⟩ := TransGen.head'_iff.1 around
    exact ⟨next, needs, id, back, around⟩
  | inr away =>
    obtain ⟨next, needs, rest⟩ := away
    exact ⟨next, needs, knot, rest, around⟩

theorem Scenario.needs_of_questCompleted {s : Scenario} {q : Quest} (hq : q ∈ s.quests)
    {required : RecordId} (declared : .questCompleted required ∈ q.prerequisites) :
    s.Needs q.id required :=
  ⟨q, hq, rfl, _, declared, _, rfl, rfl, rfl⟩

structure Event.Completes (e : Event) (quest : RecordId) : Prop where
  kind : e.kind = .questComplete
  quest : e.data.field? "quest_id" = some (.string quest)
  success : e.data.field? "success" = some (.bool true)

namespace Event

theorem completes_of_account? {e : Event} {quest : RecordId}
    (h : e.account? = some (.ended quest true)) : e.Completes quest := by
  unfold account? at h
  cases kind : e.kind with
  | questComplete =>
    simp only [kind, bind, Option.bind_eq_some_iff, field?_text_eq_some_iff,
      field?_flag_eq_some_iff] at h
    obtain ⟨named, here, succeeded, there, same⟩ := h
    cases same
    exact ⟨kind, here, there⟩
  | _ => simp [kind, bind, Option.bind_eq_some_iff] at h

end Event

namespace Player

variable {p : Player}

theorem exists_parsed {c : AuthoredCondition} (meets : p.meetsPrerequisite c = true) :
    ∃ parsed, Condition.ofAuthored c = .ok parsed ∧ p.satisfiesPrerequisite parsed = true := by
  unfold Player.meetsPrerequisite at meets
  cases reads : Condition.ofAuthored c with
  | error e =>
    rw [reads] at meets
    cases meets
  | ok parsed =>
    rw [reads] at meets
    exact ⟨parsed, rfl, meets⟩

theorem completed_of_satisfies {c : Condition} (isQuest : c.subject = .quest)
    (satisfied : p.satisfiesPrerequisite c = true) : p.status c.target = .completed := by
  simpa [Player.satisfiesPrerequisite, isQuest, Player.hasCompleted] using satisfied

end Player

namespace Run

variable {s : Scenario} {r : Run} {o : StartingPlayer} {minutes : Nat} {source : Random.Source}

theorem meets_of_canStart {q : Quest} (can : r.canStart q = true) :
    ∀ c ∈ q.prerequisites, r.player.meetsPrerequisite c = true := by
  simp only [canStart, Bool.and_eq_true, List.all_eq_true] at can
  exact can.2

theorem canStart_of_pick {q : Quest} (picked : (pick s r).1 = some q) :
    q ∈ s.quests ∧ r.canStart q = true := by
  rcases pick_cases s r with ⟨nothing, _⟩ | ⟨other, hother, can, next, goes⟩
  · rw [nothing] at picked
    cases picked
  · rw [goes] at picked
    cases picked
    exact ⟨hother, can⟩

/-- A completed quest has its end in the log. -/
theorem Reaches.exists_completes (reached : Reaches s (start s o.player minutes source) r)
    {id : RecordId} (finished : r.player.status id = .completed) :
    ∃ e ∈ r.log.events.toList, e.Completes id := by
  obtain ⟨entries, read, folded, _⟩ := reached.follows_start
  have fresh : (start s o.player minutes source).player.ledger.status id ≠ .completed := by
    change (start s o.player minutes source).player.status id ≠ .completed
    rw [status_start]
    decide
  have told : Ledger.Entry.ended id true ∈ entries := by
    apply Ledger.mem_of_completed _ fresh
    rw [folded]
    exact finished
  obtain ⟨e, he, said⟩ := Json.exists_of_mapM read _ told
  exact ⟨e, he, Event.completes_of_account? said⟩

/-- With one record for each identifier, what a quest needs is completed before it is started. -/
theorem completed_of_needs (distinct : (s.quests.map (·.id)).Nodup) {q : Quest}
    (hq : q ∈ s.quests) (can : r.canStart q = true) {required : RecordId}
    (needs : s.Needs q.id required) : r.player.status required = .completed := by
  obtain ⟨o, ho, same, c, hc, parsed, reads, isQuest, rfl⟩ := needs
  obtain rfl : o = q := List.inj_on_of_nodup_map distinct ho hq same
  obtain ⟨parsed', reads', satisfied⟩ := Player.exists_parsed (meets_of_canStart can c hc)
  rw [reads] at reads'
  cases reads'
  exact Player.completed_of_satisfies isQuest satisfied

theorem not_canStart_of_entangled (distinct : (s.quests.map (·.id)).Nodup)
    (waiting : ∀ id, s.Entangled id → r.player.status id = .notStarted) {q : Quest}
    (hq : q ∈ s.quests) (stuck : s.Entangled q.id) : r.canStart q = false := by
  obtain ⟨required, needs, stuck'⟩ := stuck.needs
  by_contra can
  have finished := completed_of_needs distinct hq (by simpa using can) needs
  rw [waiting required stuck'] at finished
  cases finished

/-- The first entangled quest to be started would need one that was started before it. -/
theorem Reaches.entangled_waits (reached : Reaches s (start s o.player minutes source) r)
    (distinct : (s.quests.map (·.id)).Nodup) :
    ∀ id, s.Entangled id → r.player.status id = .notStarted := by
  refine reached.preserves
    (P := fun r => ∀ id, s.Entangled id → r.player.status id = .notStarted) ?_ ?_
  · intro r r' next waiting id stuck
    obtain ⟨q, hq, can, a, ended⟩ := step_ends next
    have elsewhere : id ≠ q.id := by
      rintro rfl
      rw [not_canStart_of_entangled distinct waiting hq stuck] at can
      cases can
    rw [ended.status, if_neg elsewhere]
    exact waiting id stuck
  · intro id _
    exact status_start s o minutes source id

theorem exists_unmet (stays : (step s r).2 = false) {q : Quest} (hq : q ∈ s.quests)
    (waits : r.player.status q.id = .notStarted) :
    ∃ c ∈ q.prerequisites, r.player.meetsPrerequisite c = false := by
  have none : step? s r = none := by
    cases next : step? s r with
    | none => rfl
    | some r' =>
      rw [step?_eq_some_iff.1 next] at stays
      cases stays
  have cannot := step?_eq_none_iff.1 none q hq
  simpa [canStart, waits] using cannot

/-- Prerequisites are respected in every run that steps lead to. Where a quest is picked, each of
its prerequisites is a condition that holds, and one on a quest has the successful end of that quest
in the log. With one record for each identifier, a quest that is entangled is never picked. A step
that finds nothing to play leaves no quest waiting that lacks no prerequisite. -/
theorem prerequisites_respected (s : Scenario) (o : StartingPlayer) (minutes : Nat)
    (source : Random.Source) {r : Run} (reached : Reaches s (start s o.player minutes source) r) :
    (∀ q, (pick s r).1 = some q → ∀ c ∈ q.prerequisites, ∃ parsed,
      Condition.ofAuthored c = .ok parsed ∧ r.player.meetsPrerequisite c = true ∧
      (parsed.subject = .quest → ∃ e ∈ r.log.events.toList, e.Completes parsed.target)) ∧
    ((s.quests.map (·.id)).Nodup → ∀ id, s.Entangled id → r.player.status id = .notStarted ∧
      ∀ q, (pick s r).1 = some q → q.id ≠ id) ∧
    ((step s r).2 = false → ∀ q ∈ s.quests, r.player.status q.id = .notStarted →
      ∃ c ∈ q.prerequisites, r.player.meetsPrerequisite c = false) := by
  refine ⟨?_, ?_, fun stays q hq waits => exists_unmet stays hq waits⟩
  · intro q picked c hc
    obtain ⟨_, can⟩ := canStart_of_pick picked
    have meets := meets_of_canStart can c hc
    obtain ⟨parsed, reads, satisfied⟩ := Player.exists_parsed meets
    refine ⟨parsed, reads, meets, fun isQuest => ?_⟩
    exact reached.exists_completes (Player.completed_of_satisfies isQuest satisfied)
  · intro distinct id stuck
    have waiting := reached.entangled_waits distinct
    refine ⟨waiting id stuck, ?_⟩
    rintro q picked rfl
    obtain ⟨hq, can⟩ := canStart_of_pick picked
    rw [not_canStart_of_entangled distinct waiting hq stuck] at can
    cases can

/-! Hen and egg need each other, and breakfast needs the egg. Only the farm needs nothing. -/

def hen : Quest := { id := "hen", prerequisites := [.questCompleted "egg"] }

def egg : Quest := { id := "egg", prerequisites := [.questCompleted "hen"] }

def breakfast : Quest := { id := "breakfast", prerequisites := [.questCompleted "egg"] }

def farm : Scenario :=
  { quests := [{ id := "farm" }, hen, egg, breakfast],
    dialogues := [], characters := [], style := .aggressive }

theorem entangled_farm : ∀ q ∈ farm.quests, q.id = "farm" ∨ farm.Entangled q.id := by
  have first : farm.Needs "hen" "egg" :=
    Scenario.needs_of_questCompleted (q := hen) (by simp [farm]) List.mem_cons_self
  have back : farm.Needs "egg" "hen" :=
    Scenario.needs_of_questCompleted (q := egg) (by simp [farm]) List.mem_cons_self
  have served : farm.Needs "breakfast" "egg" :=
    Scenario.needs_of_questCompleted (q := breakfast) (by simp [farm]) List.mem_cons_self
  have round : TransGen farm.Needs "egg" "egg" := .tail (.single back) first
  intro q hq
  simp only [farm, List.mem_cons, List.not_mem_nil, or_false] at hq
  rcases hq with rfl | rfl | rfl | rfl
  · exact .inl rfl
  · exact .inr ⟨"egg", .single first, round⟩
  · exact .inr ⟨"egg", .refl, round⟩
  · exact .inr ⟨"egg", .single served, round⟩

theorem no_breakfast : ∃ r, Reaches farm (start farm ({} : StartingPlayer).player 60 (.ofSeed 1)) r ∧
    r.attempted = 1 ∧ (step farm r).2 = false ∧ r.player.status "breakfast" = .notStarted ∧
    r.player.meetsPrerequisite (.questCompleted "egg") = false := by
  obtain ⟨r, next⟩ := exists_step (s := farm) (q := { id := "farm" })
    (r := start farm ({} : StartingPlayer).player 60 (.ofSeed 1)) List.mem_cons_self
    (by simp [canStart, status_start])
  have reached := Reaches.tail .refl next
  obtain ⟨q, hq, _, a, ended⟩ := step_ends next
  obtain ⟨_, waits, lacks⟩ := prerequisites_respected farm {} 60 (.ofSeed 1) reached
  have waiting := waits (by decide)
  have played : q.id = "farm" := by
    rcases entangled_farm q hq with here | stuck
    · exact here
    · exact absurd (waiting q.id stuck).1 ended.not_waiting
  have idle : (step farm r).2 = false := by
    rcases step_cases farm r with ⟨stays, _⟩ | ⟨again, hagain, can, _, picked, _⟩
    · rw [stays]
    · rcases entangled_farm again hagain with here | stuck
      · have same : again.id = q.id := here.trans played.symm
        exact absurd (status_of_canStart can) (same ▸ ended.not_waiting)
      · exact absurd rfl ((waiting again.id stuck).2 again (by rw [picked]))
  have last : breakfast ∈ farm.quests := by simp [farm]
  have unserved : r.player.status "breakfast" = .notStarted := by
    rcases entangled_farm breakfast last with other | stuck
    · exact absurd other (by decide)
    · exact (waiting _ stuck).1
  obtain ⟨c, hc, unmet⟩ := lacks idle breakfast last unserved
  cases List.mem_singleton.1 hc
  exact ⟨r, reached, ended.attempted, idle, unserved, unmet⟩

end Run

end Storyline

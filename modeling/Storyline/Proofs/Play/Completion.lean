import Storyline.Proofs.Graph.Wiring
import Storyline.Proofs.Play.Request
import Storyline.Proofs.Validation.Verdict

/-!
What a run leaves behind where validation found no fault among the prerequisites. A quest that was
never started waits for a failed one. Only prerequisites that ask for a completed quest are looked
at here, and nothing is claimed of runs that are cut short.
-/
namespace Storyline

open Storyline.Graph Storyline.Validation

namespace Project

def Requires (p : Project) (id required : RecordId) : Prop :=
  ∃ q ∈ p.quests, q.id = id ∧ .questCompleted required ∈ q.prerequisites

def OnlyQuestsRequired (p : Project) : Prop :=
  ∀ q ∈ p.quests, ∀ c ∈ q.prerequisites, ∃ id, c = .questCompleted id

variable {p : Project}

theorem mem_quests_iff {q : Quest} :
    q ∈ p.quests ↔ ∃ i : Nat, (ofProject p).entries[i]? = some (.quest q) := by
  rw [← List.mem_iff_getElem?, ofProject, entries_ofRecords]
  simp [recordEntries]

theorem mem_validate_issues_iff {i : Issue} :
    i ∈ p.validate.issues ↔ i ∈ graphIssues (ofProject p) {} := by
  simp only [ValidationReport.issues, Project.validate, Graph.validate, ValidationReport.ofIssues,
    List.mem_append, List.mem_filter]
  cases i.isError <;> simp

theorem wellFounded_of_validate
    (noLoop : ∀ i ∈ p.validate.issues, i.kind ≠ .circularDependency) :
    WellFounded (ofProject p).LeadsTo := by
  have coherent := (grown_ofProject p).coherent
  have none : loopIssues (ofProject p) = [] := by
    apply List.eq_nil_iff_forall_not_mem.2
    intro i hi
    obtain ⟨reported, kind⟩ := (mem_loopIssues_iff {}).1 hi
    exact noLoop i (mem_validate_issues_iff.2 reported) kind
  exact wellFounded_leadsTo (fun _ _ => coherent.lt_of_leadsTo)
    ((loopIssues_eq_nil_iff_no_return coherent).1 none)

theorem found_of_validate
    (noneMissing : ∀ i ∈ p.validate.issues, i.kind ≠ .missingPrerequisites) {q : Quest}
    (hq : q ∈ p.quests) {id : RecordId} (points : id ∈ q.prerequisiteQuests) :
    ∃ j, (ofProject p).findKind? id .quest = some j := by
  obtain ⟨i, here⟩ := mem_quests_iff.1 hq
  apply Option.isSome_iff_exists.1
  rw [isSome_findKind?_quest_iff _ (grown_ofProject p).coherent]
  have none : missingPrerequisiteIssues (ofProject p) q = [] := by
    apply List.eq_nil_iff_forall_not_mem.2
    intro issue hissue
    obtain ⟨reported, kind⟩ := (mem_missingPrerequisiteIssues_iff {}).1
      ⟨(i, q), Graph.mem_quests_iff.2 here, hissue⟩
    exact noneMissing issue (mem_validate_issues_iff.2 reported) kind
  exact (missingPrerequisiteIssues_eq_nil_iff _ q (grown_ofProject p).coherent).1 none id points

theorem ofAuthored_questCompleted (id : RecordId) :
    Condition.ofAuthored (.questCompleted id) = .ok ⟨.quest, .has, id, .text "completed"⟩ := rfl

/-- A quest that cannot be started although it has not been waits for one that is not completed. -/
theorem exists_incomplete {r : Run} (idle : r.NoneUnderway) (only : p.OnlyQuestsRequired)
    {q : Quest} (hq : q ∈ p.quests) (cannot : r.canStart q = false)
    (waits : r.player.status q.id = .notStarted) :
    ∃ id, .questCompleted id ∈ q.prerequisites ∧
      (r.player.status id = .notStarted ∨ r.player.status id = .failed) := by
  have unmet : ∃ c ∈ q.prerequisites, r.player.meetsPrerequisite c = false := by
    simpa [Run.canStart, waits] using cannot
  obtain ⟨c, hc, unmet⟩ := unmet
  obtain ⟨id, rfl⟩ := only q hq c hc
  refine ⟨id, hc, ?_⟩
  have incomplete : r.player.status id ≠ .completed := by
    simpa [Player.meetsPrerequisite, ofAuthored_questCompleted, Player.satisfiesPrerequisite,
      Player.hasCompleted] using unmet
  have := idle id
  cases status : r.player.status id <;> simp_all

/-- The descent along prerequisites: it ends since edges lead nowhere back, and it can only end at a
failed quest. -/
theorem exists_failed {r : Run} (idle : r.NoneUnderway) (only : p.OnlyQuestsRequired)
    (noLoop : ∀ i ∈ p.validate.issues, i.kind ≠ .circularDependency)
    (noneMissing : ∀ i ∈ p.validate.issues, i.kind ≠ .missingPrerequisites)
    (stuck : ∀ q ∈ p.quests, r.canStart q = false) {q : Quest} (hq : q ∈ p.quests)
    (waits : r.player.status q.id = .notStarted) :
    ∃ f ∈ p.quests, Relation.TransGen p.Requires q.id f.id ∧ r.player.status f.id = .failed := by
  obtain ⟨i, here⟩ := mem_quests_iff.1 hq
  induction i using (wellFounded_of_validate noLoop).induction generalizing q with
  | _ i ih =>
    obtain ⟨id, declared, status⟩ := exists_incomplete idle only hq (stuck q hq) waits
    have points : id ∈ q.prerequisiteQuests := List.mem_filterMap.2 ⟨_, declared, rfl⟩
    obtain ⟨j, found⟩ := found_of_validate noneMissing hq points
    have leads := leadsTo_of_prerequisite here declared rfl found
    obtain ⟨required, there, named⟩ := (grown_ofProject p).coherent.exists_quest_of_findKind? found
    have hrequired : required ∈ p.quests := mem_quests_iff.2 ⟨j, there⟩
    have step : p.Requires q.id required.id := ⟨q, hq, rfl, named ▸ declared⟩
    rcases status with waiting | failed
    · obtain ⟨f, hf, chain, failed⟩ := ih j leads hrequired (named ▸ waiting) there
      exact ⟨f, hf, chain.head step, failed⟩
    · exact ⟨required, hrequired, .single step, named ▸ failed⟩

end Project

/-- In a project whose quests belong to the story arc that is played and have completed quests for
their only prerequisites, and on which validation reports neither a loop nor a missing prerequisite:
when the run stops for want of content, each quest that was never started has a chain of declared
prerequisites to one that failed. Without failures all quests are completed. Identifiers may
repeat. -/
theorem Project.play_leaves_failures {p : Project} {request : PlayRequest} {c : Circumstances}
    {t : Transcript} (inArc : ∀ q ∈ p.quests, q.storyArc = some request.storyArc)
    (only : p.OnlyQuestsRequired)
    (noLoop : ∀ i ∈ p.validate.issues, i.kind ≠ .circularDependency)
    (noneMissing : ∀ i ∈ p.validate.issues, i.kind ≠ .missingPrerequisites)
    (played : p.play request c = .ok t) (stopped : t.termination = .noAvailableQuests) :
    (∀ q ∈ p.quests, t.final.status q.id = .notStarted →
      ∃ f ∈ p.quests, Relation.TransGen p.Requires q.id f.id ∧ t.final.status f.id = .failed) ∧
    ((∀ q ∈ p.quests, t.final.status q.id ≠ .failed) →
      ∀ q ∈ p.quests, t.final.status q.id = .completed) := by
  obtain ⟨labels, rfl⟩ := play_eq_ok played
  have all : (p.scenarioFor request).quests = p.quests :=
    List.filter_eq_self.2 fun q hq => by simp [inArc q hq]
  have stuck := endFor_maximal stopped
  rw [all] at stuck
  have waiting := fun q (hq : q ∈ p.quests) =>
    exists_failed (noneUnderway_endFor p request c) only noLoop noneMissing stuck hq
  refine ⟨waiting, ?_⟩
  intro noneFailed q hq
  cases status : (p.endFor request c).1.player.status q.id with
  | completed => exact status
  | inProgress => exact absurd status (noneUnderway_endFor p request c q.id)
  | failed => exact absurd status (noneFailed q hq)
  | notStarted =>
    obtain ⟨f, hf, _, failed⟩ := waiting q hq status
    exact absurd failed (noneFailed f hf)

def Project.lowRung : Quest := { id := "low", storyArc := some "arc", estimatedMinutes := some 0 }

def Project.highRung : Quest :=
  { id := "high", storyArc := some "arc", estimatedMinutes := some 0,
    prerequisites := [.questCompleted "low"] }

def Project.ladder : Project :=
  { storyArcs := [{ id := "arc" }], quests := [lowRung, highRung] }

theorem Project.ladder_loopIssues : loopIssues (ofProject ladder) = [] := by
  have coherent := (grown_ofProject ladder).coherent
  have upwards : ∀ e ∈ (ofProject ladder).edges, e.source < e.target := by decide
  have forward : ∀ u v, (ofProject ladder).LeadsTo u v → u < v := by
    intro u v leads
    obtain ⟨e, he, rfl, rfl⟩ := (coherent.mem_children_iff u v).1 leads
    exact upwards e he
  exact (loopIssues_eq_nil_iff coherent).2 fun c cycle =>
    not_isClosedWalk_of_forward forward c cycle.1

theorem Project.ladder_missing (e : Nat × Quest) (he : e ∈ (ofProject ladder).quests) :
    missingPrerequisiteIssues (ofProject ladder) e.2 = [] := by
  have hq : e.2 ∈ ladder.quests := mem_quests_iff.2 ⟨e.1, Graph.mem_quests_iff.1 he⟩
  have found : ((ofProject ladder).findKind? "low" .quest).isSome = true := by decide
  have named : ∀ q ∈ ladder.quests, ∀ id ∈ q.prerequisiteQuests, id = "low" := by decide
  rw [missingPrerequisiteIssues_eq_nil_iff _ _ (grown_ofProject ladder).coherent]
  intro id hid
  rw [named e.2 hq id hid, ← isSome_findKind?_quest_iff _ (grown_ofProject ladder).coherent]
  exact found

theorem Project.secondsFor_ladder {q : Quest} (hq : q ∈ ladder.quests) (draw : Nat) :
    q.secondsFor draw = 60 := by
  have instant : ∀ q ∈ ladder.quests, q.minutes = 0 := by decide
  simp [Quest.secondsFor, instant q hq, Rounding.toLeadingBits, Rounding.halfEven,
    Rounding.halfUp, Quest.leastSeconds]

/-- Each step takes a minute, and there are two, so neither the hour nor the deadline is reached. -/
theorem Project.ladder_endFor (stamp : Stamp) :
    (ladder.endFor { storyArc := "arc" } { stamp }).2 = .noAvailableQuests := by
  have both : (ladder.scenarioFor { storyArc := "arc" }).quests = ladder.quests := rfl
  have few : ∀ r, Run.remaining (ladder.scenarioFor { storyArc := "arc" }) r ≤ 2 :=
    fun r => List.countP_le_length
  have early : (ladder.endFor { storyArc := "arc" } { stamp }).1.clock.budget = 3600 ∧
      (ladder.endFor { storyArc := "arc" } { stamp }).1.clock.elapsed + 60 *
        Run.remaining (ladder.scenarioFor { storyArc := "arc" })
          (ladder.endFor { storyArc := "arc" } { stamp }).1 ≤ 120 := by
    refine endFor_preserves (P := fun r => r.clock.budget = 3600 ∧ r.clock.elapsed + 60 *
      Run.remaining (ladder.scenarioFor { storyArc := "arc" }) r ≤ 120) ?_ ?_
    · intro r r' goes ⟨budget, early⟩
      obtain ⟨q, hq, _, _, ended⟩ := Run.step_ends goes
      obtain ⟨draw, _, seconds⟩ := ended.drawn
      have fewer := Run.remaining_step goes
      rw [ended.clock, seconds, secondsFor_ladder (both ▸ hq)]
      simp only [Clock.advance]
      omega
    · have started : (ladder.startFor { storyArc := "arc" } { stamp }).clock = ⟨0, 3600⟩ := rfl
      have := few (ladder.startFor { storyArc := "arc" } { stamp })
      rw [started]
      exact ⟨rfl, by dsimp only; omega⟩
  have reason := endFor_reason ladder { storyArc := "arc" } { stamp }
  cases stopped : (ladder.endFor { storyArc := "arc" } { stamp }).2 with
  | noAvailableQuests => rfl
  | timeBudget =>
    have exhausted := reason.1 stopped
    simp only [Clock.isExhausted, decide_eq_true_eq] at exhausted
    omega
  | deadline =>
    have late := reason.2 stopped
    simp [RunSettings.hasExpired, PlayRequest.settings] at late

theorem Project.ladder_played : ∃ t : Transcript,
    ladder.play { storyArc := "arc" } { stamp := ⟨⟨0⟩, ⟨0, 0⟩⟩ } = .ok t ∧
      t.termination = .noAvailableQuests ∧
      (t.final.status "high" = .notStarted → t.final.status "low" = .failed) ∧
      (t.final.status "low" ≠ .failed → t.final.status "high" ≠ .failed →
        t.final.status "high" = .completed) := by
  obtain ⟨t, played⟩ : ∃ t : Transcript,
      ladder.play { storyArc := "arc" } { stamp := ⟨⟨0⟩, ⟨0, 0⟩⟩ } = .ok t := ⟨_, rfl⟩
  have stopped : t.termination = .noAvailableQuests := by
    obtain ⟨labels, rfl⟩ := play_eq_ok played
    exact ladder_endFor _
  have inArc : ∀ q ∈ ladder.quests, q.storyArc = some "arc" := by decide
  have only : ladder.OnlyQuestsRequired := by
    simp [OnlyQuestsRequired, ladder, lowRung, highRung]
  have noLoop : ∀ i ∈ ladder.validate.issues, i.kind ≠ .circularDependency := by
    intro i hi kind
    have raised := (mem_loopIssues_iff {}).2 ⟨mem_validate_issues_iff.1 hi, kind⟩
    rw [ladder_loopIssues] at raised
    cases raised
  have noneMissing : ∀ i ∈ ladder.validate.issues, i.kind ≠ .missingPrerequisites := by
    intro i hi kind
    obtain ⟨e, he, raised⟩ :=
      (mem_missingPrerequisiteIssues_iff {}).2 ⟨mem_validate_issues_iff.1 hi, kind⟩
    rw [ladder_missing e he] at raised
    cases raised
  obtain ⟨waiting, climbed⟩ := play_leaves_failures inArc only noLoop noneMissing played stopped
  have ids : ∀ q ∈ ladder.quests, q.id = "low" ∨ q.id = "high" := by decide
  have last : highRung ∈ ladder.quests := List.mem_cons_of_mem _ List.mem_cons_self
  refine ⟨t, played, stopped, ?_, ?_⟩
  · intro unstarted
    obtain ⟨f, hf, _, failed⟩ := waiting highRung last unstarted
    rcases ids f hf with id | id
    · rw [← id]
      exact failed
    · rw [id, unstarted] at failed
      cases failed
  · intro low high
    have noneFailed : ∀ q ∈ ladder.quests, t.final.status q.id ≠ .failed := by
      intro q hq
      rcases ids q hq with id | id
      · rw [id]
        exact low
      · rw [id]
        exact high
    exact climbed noneFailed highRung last

end Storyline

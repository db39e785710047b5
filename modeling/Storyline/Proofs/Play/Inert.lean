import Storyline.Proofs.Play.Choice
import Storyline.Proofs.Play.View

/-!
Quests that can never be started because a prerequisite of theirs is no condition. A run is the same
with such a quest on the list as without it: the quest is on record as not started, and nothing else
about it shows.
-/
namespace Storyline

namespace SortedMap

variable {κ ν : Type} [Ord κ] [Std.TransOrd κ] [Std.LawfulEqOrd κ]

def insertIfNew (m : SortedMap κ ν) (k : κ) (v : ν) : SortedMap κ ν :=
  if m.contains k then m else m.insert k v

theorem get?_insertIfNew (m : SortedMap κ ν) (k j : κ) (v : ν) :
    (m.insertIfNew k v).get? j =
      if compare j k = .eq then some ((m.get? k).getD v) else m.get? j := by
  unfold insertIfNew contains
  by_cases here : j = k
  · subst here
    cases known : m.get? j <;> simp [known]
  · cases m.get? k <;> simp [here]

end SortedMap

def Player.enlist (p : Player) (id : RecordId) : Player :=
  { p with quests := p.quests.insertIfNew id {} }

def View.enlist (id : RecordId) : View :=
  { whole with
    quests := (·.insertIfNew id {})
    getD_quests := by
      intro m j
      unfold SortedMap.getD
      rw [SortedMap.get?_insertIfNew]
      by_cases here : j = id <;> simp [here]
    quests_insert := by
      intro m j progress
      apply SortedMap.ext_get?
      intro k
      by_cases here : k = id <;> by_cases there : k = j <;>
        simp_all [SortedMap.get?_insertIfNew] }

namespace Run

variable {s s' : Scenario} {before after : List Quest} {d : Quest} {c : AuthoredCondition}
  {fault : Condition.Fault} {p : Player}

theorem canStart_of_malformed (declared : c ∈ d.prerequisites)
    (malformed : Condition.ofAuthored c = .error fault) (r : Run) : r.canStart d = false := by
  have unmet : r.player.meetsPrerequisite c = false := by
    rw [Player.meetsPrerequisite, malformed]
  have some_unmet : d.prerequisites.all r.player.meetsPrerequisite = false :=
    List.all_eq_false.2 ⟨c, declared, by simp [unmet]⟩
  rw [canStart, some_unmet, Bool.and_false]

theorem carries_enlist (cast : s'.characters = s.characters) (script : s'.dialogues = s.dialogues)
    (style : s'.style = s.style)
    (candidates : ∀ r : Run, s'.quests.filter r.canStart = s.quests.filter r.canStart)
    (id : RecordId) : (View.enlist id).Carries s s' where
  characters := cast
  lines r q time := View.run_speak _ r cast script (fun _ => rfl) (fun _ _ => rfl) q time
  quest r := by rw [View.pick_run, pick_eq_choose, pick_eq_choose, candidates, style]
  source r := by rw [View.pick_run, pick_eq_choose, pick_eq_choose, candidates, style]

theorem fresh_enroll (quests : List Quest) {p : Player}
    (fresh : ∀ id progress, p.quests.get? id = some progress → progress = {}) (id : RecordId)
    (progress : QuestProgress) (known : (enroll quests p).quests.get? id = some progress) :
    progress = {} := by
  unfold enroll at known
  induction quests generalizing p with
  | nil => exact fresh id progress known
  | cons q quests ih =>
    refine ih ?_ known
    intro other progress known
    rw [Player.get?_setStatus] at known
    split at known
    · cases known
      unfold SortedMap.getD
      cases before : p.quests.get? q.id with
      | none => rfl
      | some progress => rw [Option.getD_some, fresh q.id progress before]; rfl
    · exact fresh other progress known

theorem enlist_enroll (id : RecordId) (quests : List Quest) (p : Player) :
    enroll quests (p.enlist id) = (enroll quests p).enlist id :=
  List.foldl_hom (View.enlist id).player fun p q => (View.enlist id).setStatus_player p q.id _

/-- It makes no difference to the record where on the list a quest stands. -/
theorem enroll_insert (fresh : ∀ id progress, p.quests.get? id = some progress → progress = {}) :
    enroll (before ++ d :: after) p = (enroll (before ++ after) p).enlist d.id := by
  have enlisted : (enroll before p).setStatus d.id .notStarted =
      (enroll before p).enlist d.id := by
    have known := fresh_enroll before fresh d.id
    have quests : (enroll before p).quests.insert d.id
        (((enroll before p).quests.getD d.id {}).moveTo .notStarted) =
        (enroll before p).quests.insertIfNew d.id {} := by
      apply SortedMap.ext_get?
      intro k
      rw [SortedMap.get?_insert, SortedMap.get?_insertIfNew, SortedMap.getD]
      cases on_record : (enroll before p).quests.get? d.id with
      | none => rfl
      | some progress => rw [known progress on_record]; rfl
    rw [Player.setStatus, quests, Player.enlist]
  calc enroll (before ++ d :: after) p
      = enroll after ((enroll before p).setStatus d.id .notStarted) := List.foldl_append
    _ = enroll after ((enroll before p).enlist d.id) := by rw [enlisted]
    _ = (enroll after (enroll before p)).enlist d.id := enlist_enroll d.id after _
    _ = (enroll (before ++ after) p).enlist d.id := by
      rw [enroll, enroll, enroll, List.foldl_append]

theorem start_insert (split : s.quests = before ++ after) (o : StartingPlayer) (minutes : Nat)
    (source : Random.Source) :
    start { s with quests := before ++ d :: after } o.player minutes source =
      (View.enlist d.id).run (start s o.player minutes source) := by
  have unknown : ∀ id progress, o.player.quests.get? id = some progress → progress = {} := by
    intro id progress known
    cases known
  rw [start, start, enroll_insert unknown, split]
  rfl

end Run

namespace Scenario

variable {s : Scenario} {before after : List Quest} {d : Quest} {bad : AuthoredCondition}
  {fault : Condition.Fault} {settings : RunSettings} {seed : Nat}

/-- A quest with a prerequisite that is no condition is inert. Put anywhere on the list, it leaves
the run as it is: a scenario that is refused is refused in the same way, and else the transcripts
differ in nothing but that the quest is on record as not started, where it was not on record. -/
theorem play_ignores_malformed (split : s.quests = before ++ after)
    (declared : bad ∈ d.prerequisites) (malformed : Condition.ofAuthored bad = .error fault)
    (o : StartingPlayer) (seeded : settings.seed = some seed) (labels : RunLabels)
    (c c' : Circumstances) :
    let s' := { s with quests := before ++ d :: after }
    (∃ e, s.play o settings labels c = .error e ∧ s'.play o settings labels c' = .error e) ∨
    ∃ t t', s.play o settings labels c = .ok t ∧ s'.play o settings labels c' = .ok t' ∧
      (t.termination ≠ .deadline → t'.termination ≠ .deadline →
        t' = { t with
          id := t'.id
          createdAt := t'.createdAt
          initial := t.initial.enlist d.id
          final := t.final.enlist d.id }) := by
  intro s'
  have same_check : s'.check = s.check := rfl
  cases known : s.check with
  | error e =>
    left
    refine ⟨e, ?_, ?_⟩
    · rw [Scenario.play, known]
      rfl
    · rw [Scenario.play, same_check, known]
      rfl
  | ok _ =>
    right
    obtain ⟨t, played⟩ := exists_play known o settings labels c
    obtain ⟨t', played'⟩ := exists_play (same_check.trans known) o settings labels c'
    refine ⟨t, t', played, played', ?_⟩
    intro early early'
    obtain ⟨_, last, ends, told⟩ := exists_playsOn played seeded
    obtain ⟨_, last', ends', told'⟩ := exists_playsOn played' seeded
    have candidates (r : Run) : s'.quests.filter r.canStart = s.quests.filter r.canStart := by
      have never := Run.canStart_of_malformed declared malformed r
      simp [s', split, never]
    have carries : (View.enlist d.id).Carries s s' :=
      @Run.carries_enlist s s' rfl rfl rfl candidates d.id
    have first := Run.start_insert (d := d) split o settings.maxMinutes (.ofSeed seed)
    have carried := carries.playsOn (fun _ => rfl) (ends.undisturbed early)
    rw [first] at ends' told'
    obtain ⟨_, rfl, reason⟩ := carried.unique (ends'.undisturbed early')
    rw [← reason] at told'
    clear played played' ends ends' carried
    generalize t.termination = stopped at *
    subst told told'
    rfl

def lost : Quest := { id := "lost", prerequisites := [{}] }

theorem lost_between_twins : ∃ t t',
    Run.twins.play {} { seed := some 1 } {} { stamp := ⟨⟨0⟩, ⟨0, 0⟩⟩ } = .ok t ∧
    ({ Run.twins with quests := [{ id := "twin" }, lost, { id := "twin", title := "again" }] } :
      Scenario).play {} { seed := some 1 } {} { stamp := ⟨⟨0⟩, ⟨0, 0⟩⟩ } = .ok t' ∧
    t'.events = t.events ∧ t'.attempted = t.attempted ∧ 0 < t.attempted ∧
    t'.final = t.final.enlist "lost" := by
  have split : Run.twins.quests = [{ id := "twin" }] ++ [{ id := "twin", title := "again" }] := rfl
  have declared : {} ∈ lost.prerequisites := List.mem_cons_self
  rcases play_ignores_malformed split declared rfl {}
      (rfl : ({ seed := some 1 } : RunSettings).seed = some 1) {}
      { stamp := ⟨⟨0⟩, ⟨0, 0⟩⟩ } { stamp := ⟨⟨0⟩, ⟨0, 0⟩⟩ } with
    ⟨e, refused, _⟩ | ⟨t, t', played, played', same⟩
  · obtain ⟨t, played⟩ := exists_play (s := Run.twins) rfl {} { seed := some 1 } {}
      { stamp := ⟨⟨0⟩, ⟨0, 0⟩⟩ }
    rw [played] at refused
    cases refused
  · have equal := same (termination_ne_deadline played fun _ => rfl)
      (termination_ne_deadline played' fun _ => rfl)
    refine ⟨t, t', played, played', ?_, ?_, Run.attempted_twins played, ?_⟩
    · rw [equal]
    · rw [equal]
    · rw [equal]
      rfl

end Scenario

end Storyline

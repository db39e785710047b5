import Storyline.Proofs.Play.Request
import Storyline.Proofs.Play.View

/-!
What the script of a story makes no difference to. Without the lines of dialogue, two runs whose
scenarios differ in their dialogues and in the outcomes of their quests are one run: that of the
scenario which has neither.
-/
namespace Storyline

namespace EventLog

def quiet (log : EventLog) : EventLog :=
  (log.events.toList.filter (·.kind ≠ .dialogue)).foldl push {}

theorem quiet_push (log : EventLog) {e : Event} (told : e.kind ≠ .dialogue) :
    quiet (log.push e) = (quiet log).push e := by
  have kept : (log.push e).events.toList.filter (·.kind ≠ .dialogue) =
      log.events.toList.filter (·.kind ≠ .dialogue) ++ [{ e with id := log.events.size + 1 }] := by
    simp [push, told]
  rw [quiet, kept, List.foldl_append]
  rfl

theorem quiet_push_dialogue (log : EventLog) {e : Event} (spoken : e.kind = .dialogue) :
    quiet (log.push e) = quiet log := by
  have left_out : (log.push e).events.toList.filter (·.kind ≠ .dialogue) =
      log.events.toList.filter (·.kind ≠ .dialogue) := by
    simp [push, spoken]
  rw [quiet, left_out]
  rfl

end EventLog

def Event.unnumbered (e : Event) : Event := { e with id := 0 }

def View.silence : View :=
  { whole with
    dialogue := fun _ => none
    log := EventLog.quiet
    dialogue_none := rfl
    log_push := fun l _ told => l.quiet_push told }

theorem View.silence_player {p : Player} (unspoken : p.currentDialogue = none) :
    silence.player p = p := by
  change { p with currentDialogue := none } = p
  rw [← unspoken]

def Scenario.unscripted (s : Scenario) : Scenario :=
  { s with quests := s.quests.map Quest.bare, dialogues := [] }

namespace Run

variable {s s' : Scenario} {o : StartingPlayer}

theorem available_unscripted (s : Scenario) (r : Run) :
    available s.unscripted r = available s r := by
  have same : (fun e : Quest × Nat => r.canStart e.1) ∘ Prod.map Quest.bare id =
      fun e => r.canStart e.1 := rfl
  simp only [available, Scenario.unscripted, List.zipIdx_map, List.filter_map, List.map_map]
  rw [same]
  rfl

theorem pick_unscripted (s : Scenario) (r : Run) :
    pick s.unscripted r = ((pick s r).1.map Quest.bare, (pick s r).2) := by
  have types (t : QuestType) : PlayStyle.hasType (s.quests.map Quest.bare) t =
      PlayStyle.hasType s.quests t := by
    funext i
    rw [PlayStyle.hasType, PlayStyle.hasType, List.getElem?_map]
    cases s.quests[i]? <;> rfl
  have selected : s.unscripted.style.select s.unscripted.quests (available s r) r.source =
      s.style.select s.quests (available s r) r.source := by
    simp only [PlayStyle.select, Scenario.unscripted, types]
  unfold pick
  rw [available_unscripted, selected]
  generalize s.style.select s.quests (available s r) r.source = chosen
  obtain ⟨i, source⟩ := chosen
  cases i with
  | none => rfl
  | some i => exact Prod.ext List.getElem?_map rfl

theorem silence_speak (s : Scenario) (r : Run) (q : Quest) (time : Nat) :
    View.silence.run (speak s r q time) = View.silence.run r := by
  unfold speak
  generalize s.dialogues.filter (isSpoken r.player q) = lines
  induction lines generalizing r with
  | nil => rfl
  | cons d lines ih =>
    have unheard : View.silence.run (speakLine s time r d) = View.silence.run r := by
      simp only [speakLine, emit, withPlayer, View.run, View.silence,
        EventLog.quiet_push_dialogue r.log (e := lineEvent s time d) rfl]
      rfl
    rw [List.foldl_cons, ih, unheard]

theorem carries_silence (s : Scenario) : View.silence.Carries s s.unscripted where
  characters := rfl
  lines r q time := (silence_speak s r q time).symm
  quest r := by
    rw [View.pick_run, pick_unscripted, Option.map_map]
    rfl
  source r := by rw [View.pick_run, pick_unscripted]

theorem silence_start (s : Scenario) (o : StartingPlayer) (minutes : Nat)
    (source : Random.Source) :
    View.silence.run (start s o.player minutes source) =
      start s.unscripted o.player minutes source := by
  have enrolled : enroll s.unscripted.quests o.player = enroll s.quests o.player := by
    rw [enroll, Scenario.unscripted, List.foldl_map]
    rfl
  have unspoken := (betweenSteps_start s o minutes source).currentDialogue
  change { start s o.player minutes source with
    player := View.silence.player (start s o.player minutes source).player } = _
  rw [View.silence_player unspoken, start, start, enrolled]

/-- Behind a run that no deadline cuts short is one without any script. -/
theorem PlaysOn.unscripted {expired : Nat → Bool} {n minutes : Nat} {source : Random.Source}
    {last : Run} {t : Termination}
    (played : PlaysOn s expired n (start s o.player minutes source) last t)
    (early : t ≠ .deadline) :
    PlaysOn s.unscripted (fun _ => false) n (start s.unscripted o.player minutes source)
      (View.silence.run last) t := by
  rw [← silence_start]
  exact (carries_silence s).playsOn (fun _ => rfl) (played.undisturbed early)

theorem PlaysOn.unscripted_unique {expired expired' : Nat → Bool} {n n' minutes : Nat}
    {source : Random.Source} {last last' : Run} {t t' : Termination}
    (same : s'.unscripted = s.unscripted)
    (played : PlaysOn s expired n (start s o.player minutes source) last t)
    (played' : PlaysOn s' expired' n' (start s' o.player minutes source) last' t')
    (early : t ≠ .deadline) (early' : t' ≠ .deadline) :
    View.silence.run last' = View.silence.run last ∧ t' = t := by
  have here := played.unscripted early
  have there := played'.unscripted early'
  rw [same] at there
  exact (there.unique here).2

theorem Reaches.exists_events {r r' : Run} (reached : Reaches s r r') :
    ∃ es : List Event, r'.log = es.foldl EventLog.push r.log := by
  refine reached.preserves
    (P := fun r' => ∃ es : List Event, r'.log = es.foldl EventLog.push r.log) ?_ ⟨[], rfl⟩
  intro m m' next ⟨es, log⟩
  obtain ⟨_, _, _, _, _, b, _, _, logged, _⟩ := step_block next
  exact ⟨es ++ b.events, by rw [logged, log, List.foldl_append]⟩

/-- Runs of which the same is left without dialogue differ in their logs alone, where no line was
spoken last. -/
theorem exists_log_of_silence {r r' : Run} (same : View.silence.run r' = View.silence.run r)
    (unspoken : r.player.currentDialogue = none) (unspoken' : r'.player.currentDialogue = none) :
    ∃ log, log.quiet = r.log.quiet ∧ r' = { r with log } := by
  have seen (r : Run) (unspoken : r.player.currentDialogue = none) :
      View.silence.run r = { r with log := r.log.quiet } := by
    change { r with log := r.log.quiet, player := View.silence.player r.player } = _
    rw [View.silence_player unspoken]
  refine ⟨r'.log, congrArg Run.log same, ?_⟩
  rw [seen r unspoken, seen r' unspoken'] at same
  exact congrArg (fun view : Run => { view with log := r'.log }) same

end Run

def Transcript.plot (t : Transcript) : List Event :=
  (t.events.filter (·.kind ≠ .dialogue)).map Event.unnumbered

theorem Transcript.plot_ofRun (stamp : Stamp) (labels : RunLabels) (style : PlayStyle) (seed : Nat)
    (initial : Player) (r : Run) (termination : Termination) :
    (ofRun stamp labels style seed initial r termination).plot =
      r.log.quiet.events.toList.map Event.unnumbered := by
  rw [EventLog.quiet, EventLog.toList_foldl_push_empty, EventLog.map_numbered fun _ _ => rfl]
  rfl

/-- Two transcripts of the same play, their lines of dialogue apart. -/
structure Transcript.SamePlay (t t' : Transcript) : Prop where
  initial : t'.initial = t.initial
  final : t'.final = t.final
  attempted : t'.attempted = t.attempted
  completed : t'.completed = t.completed
  failed : t'.failed = t.failed
  seconds : t'.seconds = t.seconds
  experienceGained : t'.experienceGained = t.experienceGained
  reputationChanges : t'.reputationChanges = t.reputationChanges
  alignmentChanges : t'.alignmentChanges = t.alignmentChanges
  termination : t'.termination = t.termination
  plot : t'.plot = t.plot

variable {s s' : Scenario} {o : StartingPlayer} {settings : RunSettings}
  {labels labels' : RunLabels} {c c' : Circumstances} {t t' : Transcript} {seed : Nat}

theorem Scenario.samePlay_of_unscripted (same : s'.unscripted = s.unscripted)
    (seeded : settings.seed = some seed) (played : s.play o settings labels c = .ok t)
    (played' : s'.play o settings labels' c' = .ok t') (early : t.termination ≠ .deadline)
    (early' : t'.termination ≠ .deadline) : t.SamePlay t' := by
  obtain ⟨_, last, ends, told⟩ := exists_playsOn played seeded
  obtain ⟨_, last', ends', told'⟩ := exists_playsOn played' seeded
  obtain ⟨view, reason⟩ := ends.unscripted_unique same ends' early early'
  have first : View.silence.run (Run.start s' o.player settings.maxMinutes (.ofSeed seed)) =
      View.silence.run (Run.start s o.player settings.maxMinutes (.ofSeed seed)) := by
    rw [Run.silence_start, Run.silence_start, same]
  obtain ⟨_, _, started⟩ := Run.exists_log_of_silence first
    (Run.betweenSteps_start ..).currentDialogue (Run.betweenSteps_start ..).currentDialogue
  obtain ⟨log, quiet, rfl⟩ := Run.exists_log_of_silence view
    ends.reaches.betweenSteps.currentDialogue ends'.reaches.betweenSteps.currentDialogue
  rw [reason, started] at told'
  generalize t.termination = stopped at *
  subst told told'
  refine ⟨rfl, rfl, rfl, rfl, rfl, rfl, rfl, rfl, rfl, rfl, ?_⟩
  rw [Transcript.plot_ofRun, Transcript.plot_ofRun, quiet]

namespace Project

variable {p p' : Project} {request : PlayRequest}

theorem unscripted_scenarioFor (cast : p'.characters = p.characters)
    (quests : (p'.questsInArc request.storyArc).map Quest.bare =
      (p.questsInArc request.storyArc).map Quest.bare) :
    (p'.scenarioFor request).unscripted = (p.scenarioFor request).unscripted := by
  simp only [scenarioFor, Scenario.ofArc, Scenario.unscripted, cast, quests]

theorem termination_ne_deadline (played : p.play request c = .ok t)
    (never : ∀ attempts, request.settings.hasExpired c.realSeconds attempts = false) :
    t.termination ≠ .deadline := by
  obtain ⟨_, played⟩ := exists_scenario_play played
  exact Scenario.termination_ne_deadline played never

/-- Dialogues, outcomes and other arcs make no difference to play. Two projects with the same
characters, in which the quests of the arc are the same but for their outcomes, play the same for
the same seed, as long as no deadline passes. Only the lines of dialogue that are logged may
differ, and with them the numbers of the other events. -/
theorem play_ignores_script (cast : p'.characters = p.characters)
    (quests : (p'.questsInArc request.storyArc).map Quest.bare =
      (p.questsInArc request.storyArc).map Quest.bare)
    (seeded : request.seed = some seed) (played : p.play request c = .ok t)
    (played' : p'.play request c' = .ok t') (early : t.termination ≠ .deadline)
    (early' : t'.termination ≠ .deadline) : t.SamePlay t' := by
  obtain ⟨labels, played⟩ := exists_scenario_play played
  obtain ⟨labels', played'⟩ := exists_scenario_play played'
  have same := unscripted_scenarioFor cast quests
  exact Scenario.samePlay_of_unscripted same seeded played played' early early'

/-! A visit, and the same visit with a greeting, an outcome and an arc of its own beside it. -/

def visit : Quest := { id := "visit", storyArc := some "town" }

def told : Project := { storyArcs := [{ id := "town" }], quests := [visit] }

def retold : Project :=
  { storyArcs := [{ id := "sea" }, { id := "town" }]
    quests := [{ id := "voyage", storyArc := some "sea" }, visit.withOutcome { kind := .success }]
    dialogues := [{ id := "greeting", quest := some "visit" }] }

def toTown : PlayRequest := { storyArc := "town", seed := some 1 }

theorem exists_line_retold {stamp : Stamp} (played : retold.play toTown { stamp } = .ok t) :
    ∃ e ∈ t.events, e.kind = .dialogue := by
  obtain ⟨_, played⟩ := exists_scenario_play played
  have seeded : toTown.settings.seed = some 1 := rfl
  obtain ⟨_, last, ends, made⟩ := Scenario.exists_playsOn played seeded
  generalize t.termination = reason at ends made
  generalize start : Run.start (retold.scenarioFor toTown) _ _ _ = first at ends
  obtain ⟨_, next⟩ : ∃ r, Run.step? (retold.scenarioFor toTown) first = some r := by
    subst start
    refine Run.exists_step (q := visit.withOutcome { kind := .success }) List.mem_cons_self ?_
    simp [Run.canStart, Run.status_start, visit, Quest.withOutcome]
  have goes := Run.step?_eq_some_iff.1 next
  obtain ⟨q, hq, _, _, _, b, tells, _, logged, _⟩ := Run.step_block next
  have lines : (retold.scenarioFor toTown).linesFor (first.player.arrivedAt q) q =
      [{ id := "greeting", quest := some "visit" }] := by
    cases List.mem_singleton.1 hq
    rfl
  have spoken : .dialogue ∈ b.events.map (·.kind) := by
    have said := tells.lines
    rw [lines] at said
    simp only [Block.events, Block.opening]
    generalize b.lines = ls at said ⊢
    cases said with
    | cons line _ => simp [line.1]
  cases ends with
  | exhausted spent =>
    subst start
    cases spent
  | late _ late => cases late
  | idle _ _ stays =>
    rw [goes] at stays
    cases stays
  | attempt _ _ goes' rest =>
    rw [goes] at goes'
    cases goes'
    obtain ⟨es, later⟩ := rest.reaches.exists_events
    have kept : .dialogue ∈ last.log.events.toList.map (·.kind) := by
      rw [later, logged, EventLog.map_foldl_push fun _ _ => rfl,
        EventLog.map_foldl_push fun _ _ => rfl]
      exact List.mem_append_left _ (List.mem_append_right _ spoken)
    rw [made]
    exact List.mem_map.1 kept

theorem retold_like_told : ∃ t t' : Transcript,
    told.play toTown { stamp := ⟨⟨0⟩, ⟨0, 0⟩⟩ } = .ok t ∧
    retold.play toTown { stamp := ⟨⟨0⟩, ⟨0, 0⟩⟩ } = .ok t' ∧
    t.SamePlay t' ∧ ∃ e ∈ t'.events, e.kind = .dialogue := by
  have cast : retold.characters = told.characters := rfl
  have quests : (retold.questsInArc toTown.storyArc).map Quest.bare =
      (told.questsInArc toTown.storyArc).map Quest.bare := rfl
  have found : told.storyArc toTown.storyArc = .ok { id := "town" } := rfl
  have found' : retold.storyArc toTown.storyArc = .ok { id := "town" } := rfl
  obtain ⟨t, played⟩ := exists_play found rfl { stamp := ⟨⟨0⟩, ⟨0, 0⟩⟩ }
  obtain ⟨t', played'⟩ := exists_play found' rfl { stamp := ⟨⟨0⟩, ⟨0, 0⟩⟩ }
  have early := termination_ne_deadline played fun _ => rfl
  have early' := termination_ne_deadline played' fun _ => rfl
  have same := play_ignores_script cast quests rfl played played' early early'
  exact ⟨t, t', played, played', same, exists_line_retold played'⟩

end Project

end Storyline

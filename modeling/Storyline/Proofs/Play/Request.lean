import Storyline.Proofs.Play.Course

/-! The run behind a request, and what holds of it from its start to its end. -/
namespace Storyline.Project

variable {p : Project} {request : PlayRequest} {c : Circumstances}

def scenarioFor (p : Project) (request : PlayRequest) : Scenario :=
  .ofArc p request.storyArc request.settings.style

def startFor (p : Project) (request : PlayRequest) (c : Circumstances) : Run :=
  Run.start (p.scenarioFor request) (request.start.getD {}).player request.settings.maxMinutes
    (.ofSeed (request.settings.seed.getD c.freshSeed))

def endFor (p : Project) (request : PlayRequest) (c : Circumstances) : Run × Termination :=
  (p.startFor request c).toEnd (p.scenarioFor request) (request.settings.hasExpired c.realSeconds)

theorem id_of_storyArc {id : RecordId} {a : StoryArc} (found : p.storyArc id = .ok a) :
    a.id = id := by
  unfold Project.storyArc at found
  split at found
  · rename_i here
    cases found
    simpa using List.find?_some here
  · cases found

def labelsFor (p : Project) (request : PlayRequest) : RunLabels :=
  { project := request.project <|> p.id
    storyArc := some request.storyArc
    playerName := request.playerName.getD { : RunLabels }.playerName
    difficulty := request.difficulty.getD .medium }

theorem play_of_missing {e : LookupError} (missing : p.storyArc request.storyArc = .error e) :
    p.play request c = .error (.lookup e) := by
  rw [play, missing]
  rfl

theorem play_of_found {a : StoryArc} (found : p.storyArc request.storyArc = .ok a) :
    p.play request c = (p.scenarioFor request).play (request.start.getD {}) request.settings
      (p.labelsFor request) c := by
  rw [play, found]
  change (Scenario.ofArc p a.id request.settings.style).play _ request.settings _ c = _
  rw [id_of_storyArc found]
  rfl

theorem exists_play {a : StoryArc} (found : p.storyArc request.storyArc = .ok a)
    (known : (p.scenarioFor request).check = .ok ()) (c : Circumstances) :
    ∃ t, p.play request c = .ok t := by
  rw [play_of_found found]
  exact Scenario.exists_play known _ _ _ c

theorem exists_scenario_play {t : Transcript} (played : p.play request c = .ok t) :
    ∃ labels, (p.scenarioFor request).play (request.start.getD {}) request.settings labels c =
      .ok t := by
  cases arc : p.storyArc request.storyArc with
  | error e =>
    rw [play_of_missing arc] at played
    cases played
  | ok a => exact ⟨_, play_of_found arc ▸ played⟩

theorem play_eq_ok {t : Transcript} (played : p.play request c = .ok t) :
    ∃ labels, t = .ofRun c.stamp labels request.settings.style
      (request.settings.seed.getD c.freshSeed) (p.startFor request c).player
      (p.endFor request c).1 (p.endFor request c).2 := by
  obtain ⟨labels, played⟩ := exists_scenario_play played
  exact ⟨labels, Scenario.play_eq_ok played⟩

theorem endFor_preserves {P : Run → Prop}
    (step : ∀ r r', Run.step? (p.scenarioFor request) r = some r' → P r → P r')
    (first : P (p.startFor request c)) : P (p.endFor request c).1 :=
  Run.finish_preserves (fun r r' _ => step r r') _ _ first

theorem noneUnderway_endFor (p : Project) (request : PlayRequest) (c : Circumstances) :
    (p.endFor request c).1.NoneUnderway :=
  endFor_preserves (fun _ _ goes idle => idle.step goes) (Run.noneUnderway_start _ _ _ _)

theorem endFor_maximal (stopped : (p.endFor request c).2 = .noAvailableQuests) :
    ∀ q ∈ (p.scenarioFor request).quests, (p.endFor request c).1.canStart q = false :=
  Run.toEnd_maximal _ stopped

theorem endFor_reason (p : Project) (request : PlayRequest) (c : Circumstances) :
    ((p.endFor request c).2 = .timeBudget → (p.endFor request c).1.clock.isExhausted = true) ∧
    ((p.endFor request c).2 = .deadline →
      request.settings.hasExpired c.realSeconds (p.endFor request c).1.attempted = true) :=
  Run.finish_reason ..

end Storyline.Project

import Storyline.Proofs.Play.Replay
import Storyline.Proofs.Play.Request

/-!
When a request is refused, and who speaks where it is not. A request is refused for want of its story
arc, or else for the first dialogue of the arc whose speaker is not there. So in a run that was set
up every speaker that a dialogue names is found, and the narrator speaks for no one else.
-/
namespace Storyline

namespace Scenario

variable {s : Scenario}

theorem missingSpeaker?_eq_some_iff {characters : List Character} {d : Dialogue} {id : RecordId} :
    missingSpeaker? characters d = some id ↔
      d.character = some id ∧ ∀ c ∈ characters, c.id ≠ id := by
  simp [missingSpeaker?, Option.filter_eq_some_iff]

theorem check_eq_ok_iff : s.check = .ok () ↔
    ∀ d ∈ s.dialogues, missingSpeaker? s.characters d = none := by
  unfold check
  split
  · rename_i found
    obtain ⟨d, hd, missing⟩ := List.exists_of_findSome?_eq_some found
    refine iff_of_false (by simp) fun all => ?_
    rw [all d hd] at missing
    cases missing
  · rename_i none
    simpa using none

def voice? (s : Scenario) (d : Dialogue) : Option Character :=
  d.character.bind fun id => s.characters.find? (·.id = id)

theorem id_of_voice? {d : Dialogue} {c : Character} (found : s.voice? d = some c) :
    d.character = some c.id := by
  obtain ⟨id, named, here⟩ := Option.bind_eq_some_iff.1 found
  have same : c.id = id := by simpa using List.find?_some here
  rw [named, same]

theorem voice?_eq_none_iff (known : s.check = .ok ()) {d : Dialogue} (hd : d ∈ s.dialogues) :
    s.voice? d = none ↔ d.character = none := by
  constructor
  · intro silent
    cases named : d.character with
    | none => rfl
    | some id =>
      -- a name that is not found would have been missed when the run was set up
      have missing : missingSpeaker? s.characters d = some id :=
        missingSpeaker?_eq_some_iff.2 ⟨named, by simpa [voice?, named] using silent⟩
      rw [check_eq_ok_iff.1 known d hd] at missing
      cases missing
  · intro unnamed
    rw [voice?, unnamed]
    rfl

end Scenario

namespace Run

variable {s : Scenario} {r r' last : Run} {q : Quest} {a : Attempt}

/-- An event tells of a dialogue: by the character that the dialogue names, or by the narrator,
who speaks just where it names none. -/
structure Voices (s : Scenario) (d : Dialogue) (e : Event) : Prop where
  narrator : s.voice? d = none ↔ d.character = none
  named : ∀ c, s.voice? d = some c → d.character = some c.id ∧ c ∈ s.characters
  description : e.description =
    ((s.voice? d).map (·.name)).getD "narrator" ++ ": " ++ d.title
  data : e.data = .object [
    ("dialogue_id", .string d.id),
    ("speaker", .string (((s.voice? d).map (·.name)).getD "narrator"))]

theorem voices_lineEvent (known : s.check = .ok ()) (time : Nat) {d : Dialogue}
    (hd : d ∈ s.dialogues) : Voices s d (lineEvent s time d) where
  narrator := Scenario.voice?_eq_none_iff known hd
  named c found := by
    obtain ⟨id, _, here⟩ := Option.bind_eq_some_iff.1 found
    exact ⟨Scenario.id_of_voice? found, List.mem_of_find?_eq_some here⟩
  description := rfl
  data := rfl

def Utters (s : Scenario) (time : Nat) (r : Run) (ds : List Dialogue) (r' : Run) : Prop :=
  ∃ es : List Event, r'.log = es.foldl EventLog.push r.log ∧
    es.filter (·.kind = .dialogue) = ds.map (lineEvent s time)

theorem utters_arrive (s : Scenario) (r : Run) (q : Quest) :
    Utters s r.clock.elapsed r (s.linesFor (r.player.arrivedAt q) q) (arrive s r q) := by
  obtain ⟨begun, began, _, kind, _⟩ := Writes.begin r q r.clock.elapsed
  obtain ⟨moves, moved, _, travels⟩ :=
    Writes.travel (r.begin q r.clock.elapsed) q r.clock.elapsed
  have spoken := Writes.lines s r.clock.elapsed (s.linesFor (r.player.arrivedAt q) q)
    ((r.begin q r.clock.elapsed).travel q r.clock.elapsed)
  rw [← player_travel r q r.clock.elapsed, ← speak_eq] at spoken
  refine ⟨_, ((began.trans moved).trans spoken).log, ?_⟩
  have quiet : moves.filter (·.kind = .dialogue) = [] := by
    simp +contextual [List.filter_eq_nil_iff, travels]
  have lines : ∀ ds : List Dialogue, (ds.map (lineEvent s r.clock.elapsed)).filter
      (·.kind = .dialogue) = ds.map (lineEvent s r.clock.elapsed) := by
    simp [List.filter_eq_self, lineEvent]
  rw [List.filter_append, List.filter_append, quiet, lines, player_travel]
  simp [kind]

theorem exists_quiet_settle (s : Scenario) (r : Run) (q : Quest) (a : Attempt) (time : Nat) :
    ∃ es : List Event, ((settle s r q a time).judge q a time).log = es.foldl EventLog.push r.log ∧
      ∀ e ∈ es, e.kind ≠ .dialogue := by
  obtain ⟨changes, log, _, _, all⟩ := Writes.settle s r q a time
  obtain ⟨shifts, judged, _, turns⟩ := Writes.judge (settle s r q a time) q a time
  refine ⟨(endEvent q a time :: changes) ++ shifts, ?_, ?_⟩
  · rw [judged.log, log, List.foldl_append]
  · intro e he
    rcases List.mem_append.1 he with he | he
    · rcases List.mem_cons.1 he with rfl | he
      · simp [endEvent]
      · rintro spoken
        exact absurd (all e he).2 (by simp [spoken, EventKind.IsChange])
    · simp [turns e he]

-- The run at the end is a variable here, so that nothing unfolds the draws of the attempt.
theorem utters_of_eq {there : Run} {source : Random.Source} {start time : Nat} {ds : List Dialogue}
    (played : last = ((settle s { there with source } q a time).judge q a time).close a)
    (arrived : Utters s start r ds there) : Utters s start r ds last := by
  obtain ⟨es, log, lines⟩ := arrived
  obtain ⟨es', log', quiet⟩ := exists_quiet_settle s { there with source } q a time
  refine ⟨es ++ es', ?_, ?_⟩
  · rw [List.foldl_append, ← log, played]
    exact log'
  · rw [List.filter_append, lines, List.filter_eq_nil_iff.2 (by simpa using quiet),
      List.append_nil]

theorem utters_step (next : step? s r = some r') : ∃ q, (pick s r).1 = some q ∧
    Utters s r.clock.elapsed r (s.linesFor (r.player.arrivedAt q) q) r' := by
  obtain ⟨q, _, _, source, picked, rfl⟩ := exists_picked next
  exact ⟨q, by rw [picked],
    utters_of_eq (play_eq s { r with source } q) (utters_arrive s { r with source } q)⟩

theorem Utters.forall₂_voices {time : Nat} {p : Player} (known : s.check = .ok ())
    (uttered : Utters s time r (s.linesFor p q) r') :
    ∃ es : List Event, r'.log = es.foldl EventLog.push r.log ∧
      List.Forall₂ (Voices s) (s.linesFor p q) (es.filter (·.kind = .dialogue)) := by
  obtain ⟨es, log, lines⟩ := uttered
  refine ⟨es, log, ?_⟩
  rw [lines, List.forall₂_map_right_iff, List.forall₂_same]
  exact fun d hd => voices_lineEvent known time (List.mem_of_mem_filter hd)

end Run

namespace Project

variable {p : Project} {arc : RecordId} {request : PlayRequest} {c : Circumstances}

def Stages (p : Project) (arc : RecordId) (d : Dialogue) : Prop :=
  ∃ q ∈ p.quests, q.storyArc = some arc ∧ d.quest = some q.id

instance (p : Project) (arc : RecordId) : DecidablePred (p.Stages arc) := fun d =>
  inferInstanceAs (Decidable (∃ q ∈ p.quests, q.storyArc = some arc ∧ d.quest = some q.id))

def Lacks (p : Project) (arc : RecordId) (d : Dialogue) (character : RecordId) : Prop :=
  p.Stages arc d ∧ d.character = some character ∧ ∀ c ∈ p.characters, c.id ≠ character

inductive Refuses (p : Project) (arc : RecordId) : PlayError → Prop where
  | noArc (absent : ∀ a ∈ p.storyArcs, a.id ≠ arc) : Refuses p arc (.lookup (.storyArc arc))
  | noSpeaker {before after : List Dialogue} {d : Dialogue} {character : RecordId}
      (present : ∃ a ∈ p.storyArcs, a.id = arc)
      (order : p.dialogues = before ++ d :: after)
      (earlier : ∀ d' ∈ before, ∀ other, ¬ p.Lacks arc d' other)
      (lacks : p.Lacks arc d character) :
      Refuses p arc (.unknownSpeaker d.id character)

theorem dialogues_ofArc (p : Project) (arc : RecordId) (style : PlayStyle) :
    (Scenario.ofArc p arc style).dialogues = p.dialogues.filter (p.Stages arc) := by
  apply List.filter_congr
  intro d _
  rw [Bool.eq_iff_iff, decide_eq_true_iff]
  cases attached : d.quest with
  | none => simp [Stages, attached]
  | some id =>
    simp only [Stages, attached, questsInArc, Option.any_some, List.any_filter, List.any_eq_true,
      Bool.and_eq_true, decide_eq_true_iff, Option.some.injEq]
    simp only [@eq_comm _ id]

def lacking? (p : Project) (arc : RecordId) (d : Dialogue) : Option (RecordId × RecordId) :=
  if p.Stages arc d then (Scenario.missingSpeaker? p.characters d).map (d.id, ·) else none

theorem lacking?_eq_some_iff {d : Dialogue} {dialogue character : RecordId} :
    p.lacking? arc d = some (dialogue, character) ↔ d.id = dialogue ∧ p.Lacks arc d character := by
  unfold lacking? Lacks
  split
  · rename_i staged
    simp [staged, Scenario.missingSpeaker?_eq_some_iff, and_comm]
  · rename_i unstaged
    simp [unstaged]

theorem lacking?_eq_none_iff {d : Dialogue} :
    p.lacking? arc d = none ↔ ∀ character, ¬ p.Lacks arc d character := by
  rw [Option.eq_none_iff_forall_ne_some]
  constructor
  · intro none character lacks
    exact none _ (lacking?_eq_some_iff.2 ⟨rfl, lacks⟩)
  · rintro all ⟨dialogue, character⟩ lacking
    exact all character (lacking?_eq_some_iff.1 lacking).2

theorem findSome?_dialogues_ofArc (p : Project) (arc : RecordId) (style : PlayStyle) :
    (Scenario.ofArc p arc style).dialogues.findSome?
        (fun d => (Scenario.missingSpeaker? p.characters d).map (d.id, ·)) =
      p.dialogues.findSome? (p.lacking? arc) := by
  rw [dialogues_ofArc]
  induction p.dialogues with
  | nil => rfl
  | cons d ds ih =>
    by_cases staged : p.Stages arc d
    · rw [List.filter_cons_of_pos (by simpa using staged), List.findSome?_cons,
        List.findSome?_cons, ih, lacking?, if_pos staged]
    · rw [List.filter_cons_of_neg (by simpa using staged), List.findSome?_cons, ih, lacking?,
        if_neg staged]

theorem check_scenarioFor (p : Project) (request : PlayRequest) : (p.scenarioFor request).check =
    match p.dialogues.findSome? (p.lacking? request.storyArc) with
    | some (dialogue, character) => .error (.unknownSpeaker dialogue character)
    | none => .ok () := by
  rw [← findSome?_dialogues_ofArc p request.storyArc request.settings.style]
  rfl

theorem refuses_iff_of_present (present : ∃ a ∈ p.storyArcs, a.id = arc) {e : PlayError} :
    p.Refuses arc e ↔ ∃ dialogue character, e = .unknownSpeaker dialogue character ∧
      p.dialogues.findSome? (p.lacking? arc) = some (dialogue, character) := by
  simp only [List.findSome?_eq_some_iff, lacking?_eq_some_iff, lacking?_eq_none_iff]
  constructor
  · intro refused
    cases refused with
    | noArc absent =>
      obtain ⟨a, ha, same⟩ := present
      exact absurd same (absent a ha)
    | @noSpeaker before after d character _ order earlier lacks =>
      exact ⟨d.id, character, rfl, before, d, after, order, ⟨rfl, lacks⟩, earlier⟩
  · rintro ⟨_, _, rfl, before, d, after, order, ⟨rfl, lacks⟩, earlier⟩
    exact .noSpeaker present order earlier lacks

theorem refuses_iff_of_absent (absent : ∀ a ∈ p.storyArcs, a.id ≠ arc) {e : PlayError} :
    p.Refuses arc e ↔ e = .lookup (.storyArc arc) := by
  constructor
  · intro refused
    cases refused with
    | noArc _ => rfl
    | noSpeaker present =>
      obtain ⟨a, ha, same⟩ := present
      exact absurd same (absent a ha)
  · rintro rfl
    exact .noArc absent

theorem play_of_absent (absent : ∀ a ∈ p.storyArcs, a.id ≠ request.storyArc) :
    p.play request c = .error (.lookup (.storyArc request.storyArc)) := by
  have missing : p.storyArcs.find? (·.id = request.storyArc) = none := by simpa using absent
  exact play_of_missing (by rw [storyArc, missing])

theorem exists_storyArc (present : ∃ a ∈ p.storyArcs, a.id = arc) :
    ∃ a, p.storyArc arc = .ok a := by
  unfold storyArc
  split
  · exact ⟨_, rfl⟩
  · rename_i missing
    obtain ⟨a, ha, same⟩ := present
    exact absurd same (by simpa using List.find?_eq_none.1 missing a ha)

theorem play_of_present (present : ∃ a ∈ p.storyArcs, a.id = request.storyArc) :
    (∃ t, p.play request c = .ok t) ∧
        p.dialogues.findSome? (p.lacking? request.storyArc) = none ∨
      ∃ dialogue character, p.play request c = .error (.unknownSpeaker dialogue character) ∧
        p.dialogues.findSome? (p.lacking? request.storyArc) = some (dialogue, character) := by
  obtain ⟨a, found⟩ := exists_storyArc present
  have checked := check_scenarioFor p request
  cases lacking : p.dialogues.findSome? (p.lacking? request.storyArc) with
  | none =>
    rw [lacking] at checked
    exact .inl ⟨exists_play found checked c, rfl⟩
  | some pair =>
    rw [lacking] at checked
    refine .inr ⟨pair.1, pair.2, ?_, rfl⟩
    rw [play_of_found found, Scenario.play, checked]
    rfl

theorem play_eq_error_iff {e : PlayError} :
    p.play request c = .error e ↔ p.Refuses request.storyArc e := by
  by_cases present : ∃ a ∈ p.storyArcs, a.id = request.storyArc
  · rw [refuses_iff_of_present present]
    rcases play_of_present (c := c) present with ⟨⟨t, goes⟩, none⟩ | ⟨_, _, fails, found⟩
    · simp [goes, none]
    · simp [fails, found, eq_comm]
  · have absent : ∀ a ∈ p.storyArcs, a.id ≠ request.storyArc := by simpa using present
    rw [refuses_iff_of_absent absent, play_of_absent absent]
    simp [eq_comm]

theorem check_of_play {t : Transcript} (played : p.play request c = .ok t) :
    (p.scenarioFor request).check = .ok () := by
  obtain ⟨labels, played⟩ := exists_scenario_play played
  rw [Scenario.play] at played
  cases checked : (p.scenarioFor request).check with
  | ok _ => rfl
  | error e =>
    rw [checked] at played
    cases played

theorem exists_refusal_iff : (∃ e, p.Refuses arc e) ↔
    (∀ a ∈ p.storyArcs, a.id ≠ arc) ∨ ∃ d ∈ p.dialogues, ∃ character, p.Lacks arc d character := by
  by_cases present : ∃ a ∈ p.storyArcs, a.id = arc
  · have here : ¬ ∀ a ∈ p.storyArcs, a.id ≠ arc := by simpa using present
    simp only [refuses_iff_of_present present, here, false_or]
    constructor
    · rintro ⟨_, _, _, rfl, found⟩
      obtain ⟨d, hd, lacking⟩ := List.exists_of_findSome?_eq_some found
      exact ⟨d, hd, _, (lacking?_eq_some_iff.1 lacking).2⟩
    · rintro ⟨d, hd, character, lacks⟩
      cases found : p.dialogues.findSome? (p.lacking? arc) with
      | some pair => exact ⟨_, pair.1, pair.2, rfl, rfl⟩
      | none =>
        have none := List.findSome?_eq_none_iff.1 found d hd
        exact absurd lacks (lacking?_eq_none_iff.1 none character)
  · have absent : ∀ a ∈ p.storyArcs, a.id ≠ arc := by simpa using present
    exact iff_of_true ⟨_, .noArc absent⟩ (.inl absent)

def focused (p : Project) (arc : RecordId) : Project :=
  { p with dialogues := p.dialogues.filter (p.Stages arc) }

theorem ofArc_focused (p : Project) (arc : RecordId) (style : PlayStyle) :
    Scenario.ofArc (p.focused arc) arc style = Scenario.ofArc p arc style := by
  have staged : (p.focused arc).Stages arc = p.Stages arc := rfl
  have kept : (Scenario.ofArc (p.focused arc) arc style).dialogues =
      (Scenario.ofArc p arc style).dialogues := by
    rw [dialogues_ofArc, dialogues_ofArc, focused, List.filter_filter]
    exact List.filter_congr fun d _ => Bool.and_self _
  rw [Scenario.ofArc, Scenario.mk.injEq]
  exact ⟨rfl, kept, rfl, rfl⟩

/-- The dialogues of other story arcs make no difference, not even to whether the arc can be
played. -/
theorem play_focused (p : Project) (request : PlayRequest) (c : Circumstances) :
    (p.focused request.storyArc).play request c = p.play request c := by
  have scenario : (p.focused request.storyArc).scenarioFor request = p.scenarioFor request :=
    ofArc_focused p request.storyArc request.settings.style
  have lookup : (p.focused request.storyArc).storyArc request.storyArc =
      p.storyArc request.storyArc := rfl
  have labels : (p.focused request.storyArc).labelsFor request = p.labelsFor request := rfl
  cases found : p.storyArc request.storyArc with
  | error e => rw [play_of_missing found, play_of_missing (lookup.trans found)]
  | ok a => rw [play_of_found found, play_of_found (lookup.trans found), scenario, labels]

/-- When a request is refused: for want of its story arc, or else for the first dialogue, in the
order of the project, that is attached to a quest of the arc and names a speaker who is not there.
The dialogues of other arcs make no difference. Of a request that is not refused, each step of the
run tells of the lines of the quest that it plays, one event for each, and the narrator speaks just
those that name no character. -/
theorem play_refuses_exactly (p : Project) (request : PlayRequest) (c : Circumstances) :
    ((∃ e, p.play request c = .error e) ↔
      (∀ a ∈ p.storyArcs, a.id ≠ request.storyArc) ∨
        ∃ d ∈ p.dialogues, ∃ character, p.Lacks request.storyArc d character) ∧
    (∀ e, p.play request c = .error e ↔ p.Refuses request.storyArc e) ∧
    (p.focused request.storyArc).play request c = p.play request c ∧
    ∀ t, p.play request c = .ok t →
      ∀ r r', Run.Reaches (p.scenarioFor request) (p.startFor request c) r →
        Run.step? (p.scenarioFor request) r = some r' →
        ∃ (q : Quest) (es : List Event), (Run.pick (p.scenarioFor request) r).1 = some q ∧
          r'.log = es.foldl EventLog.push r.log ∧
          List.Forall₂ (Run.Voices (p.scenarioFor request))
            ((p.scenarioFor request).linesFor (r.player.arrivedAt q) q)
            (es.filter (·.kind = .dialogue)) := by
  refine ⟨?_, fun e => play_eq_error_iff, play_focused p request c, ?_⟩
  · simp only [play_eq_error_iff]
    exact exists_refusal_iff
  · intro t played r r' _ next
    obtain ⟨q, picked, uttered⟩ := Run.utters_step next
    obtain ⟨es, log, voiced⟩ := uttered.forall₂_voices (check_of_play played)
    exact ⟨q, es, picked, log, voiced⟩

/-! A fording that is hailed and answered, and a drift at sea where a gull is to call. -/

def fording : Quest := { id := "fording", storyArc := some "river" }

def ferry : Project :=
  { storyArcs := [{ id := "river" }, { id := "sea" }]
    quests := [fording, { id := "drift", storyArc := some "sea" }]
    dialogues := [
      { id := "call", quest := some "drift", character := some "gull" },
      { id := "hail", quest := some "fording" },
      { id := "answer", quest := some "fording", character := some "ferryman" }]
    characters := [{ id := "ferryman", name := "Ferryman" }] }

def overRiver : PlayRequest := { storyArc := "river", seed := some 1 }

theorem ferry_refuses : let c : Circumstances := { stamp := ⟨⟨0⟩, ⟨0, 0⟩⟩ }
    (∃ e, ferry.play { storyArc := "lake" } c = .error e) ∧
    ferry.play { storyArc := "sea" } c = .error (.unknownSpeaker "call" "gull") ∧
    ∃ (r' : Run) (es : List Event), Run.step? (ferry.scenarioFor overRiver) (ferry.startFor overRiver c) = some r' ∧
      r'.log = es.foldl EventLog.push {} ∧ (es.filter (·.kind = .dialogue)).length = 2 := by
  intro c
  obtain ⟨missing, _⟩ := play_refuses_exactly ferry { storyArc := "lake" } c
  obtain ⟨_, refused, _⟩ := play_refuses_exactly ferry { storyArc := "sea" } c
  refine ⟨missing.2 (.inl (by decide)), (refused _).2 ?_, ?_⟩
  · have lacks : ferry.Lacks "sea"
        { id := "call", quest := some "drift", character := some "gull" } "gull" :=
      ⟨by decide, rfl, by decide⟩
    exact .noSpeaker (by decide) (show ferry.dialogues = [] ++ _ from rfl) nofun lacks
  · obtain ⟨_, _, _, steps⟩ := play_refuses_exactly ferry overRiver c
    have found : ferry.storyArc overRiver.storyArc = .ok { id := "river" } := rfl
    obtain ⟨t, played⟩ := exists_play found rfl c
    obtain ⟨r', next⟩ : ∃ r', Run.step? (ferry.scenarioFor overRiver)
        (ferry.startFor overRiver c) = some r' := by
      refine Run.exists_step (q := fording) List.mem_cons_self ?_
      simp [Run.canStart, startFor, Run.status_start, fording]
    obtain ⟨q, es, picked, log, voiced⟩ := steps t played _ r' .refl next
    obtain ⟨q', hq, _, _, picked', _⟩ := Run.exists_picked next
    rw [picked'] at picked
    cases picked
    cases List.mem_singleton.1 hq
    exact ⟨r', es, next, log, voiced.length_eq.symm⟩

end Project

end Storyline

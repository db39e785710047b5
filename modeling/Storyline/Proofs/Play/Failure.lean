import Storyline.Proofs.Play.Mutation
import Storyline.Proofs.Play.Progress

/-!
What a failed attempt leaves of the player. Each mutation touches one part of the player, and
those of a failed attempt touch neither what the player owns nor what the player is known for. What
changes is where the player is, how the quest stands, and the alignment.
-/
namespace Storyline

namespace Alignment

variable {a : Alignment}

theorem IsNormalized.add_zero (h : a.IsNormalized) : a.add .zero = a := by
  obtain ⟨good, neutral, evil, total⟩ := h
  have kept {n : Int} (low : 0 ≤ n) (high : n ≤ 100) : Bounded.add n 0 = n := by
    rw [Bounded.add, Int.add_zero]
    exact Bounded.clamp_of_inRange (Bounded.inRange_of_small (by omega))
  rw [add, zero, kept good (by omega), kept neutral (by omega), kept evil (by omega)]

theorem IsNormalized.renormalize (h : a.IsNormalized) : a.renormalize = a := by
  obtain ⟨good, neutral, evil, total⟩ := h
  have sum : max a.good 0 + max a.neutral 0 + max a.evil 0 = 100 := by omega
  unfold Alignment.renormalize
  simp only [sum]
  ext <;> simp <;> omega

end Alignment

theorem Player.shiftAlignment_zero {p : Player} (normalized : p.alignment.IsNormalized) :
    p.shiftAlignment .zero = p := by
  rw [shiftAlignment, normalized.add_zero, normalized.renormalize]

namespace Player

def SameIn (p p' : Player) : Part → Prop
  | .progress => p'.quests = p.quests
  | .attention => p'.currentQuest = p.currentQuest ∧ p'.currentDialogue = p.currentDialogue
  | .place => p'.location = p.location
  | .means => p'.stats = p.stats ∧ p'.reputation = p.reputation ∧ p'.inventory = p.inventory ∧
      p'.flags = p.flags
  | .leaning => p'.alignment = p.alignment

variable {p p' p'' : Player} {part : Part}

theorem SameIn.refl (p : Player) (part : Part) : p.SameIn p part := by
  cases part <;> simp [SameIn]

theorem SameIn.trans (first : p.SameIn p' part) (second : p'.SameIn p'' part) :
    p.SameIn p'' part := by
  cases part <;> simp_all [SameIn]

theorem sameIn_of_means (stats : Stats) (reputation : SortedMap String Int)
    (inventory : SortedSet String) (flags : SortedMap String Bool) (other : part ≠ .means) :
    p.SameIn { p with stats, reputation, inventory, flags } part := by
  cases part with
  | means => exact absurd rfl other
  | attention => exact ⟨rfl, rfl⟩
  | _ => exact rfl

theorem sameIn_addStat (name : String) (delta : Int) (other : part ≠ .means) :
    p.SameIn (p.addStat name delta).1 part := by
  unfold addStat
  split
  · exact .refl p part
  · exact sameIn_of_means _ _ _ _ other

theorem sameIn_applyReward (w : Reward) (other : part ≠ .means) :
    p.SameIn (p.applyReward w).1 part := by
  unfold applyReward
  cases w.kind with
  | experience | gold | stat => exact sameIn_addStat _ _ other
  | item =>
    dsimp only
    unfold loseItem gainItem
    split <;> split
    · exact sameIn_of_means _ _ _ _ other
    · exact .refl p part
    · exact .refl p part
    · exact sameIn_of_means _ _ _ _ other
  | flag | reputation => exact sameIn_of_means _ _ _ _ other

theorem sameIn_updateLevel (other : part ≠ .means) : p.SameIn p.updateLevel.1 part := by
  unfold updateLevel
  dsimp only
  split
  · exact .refl p part
  · exact sameIn_of_means _ _ _ _ other

theorem sameIn_mutate (m : Mutation) (other : m.part ≠ part) : p.SameIn (p.mutate m) part := by
  cases m with
  | grant w => exact sameIn_applyReward w other.symm
  | raiseLevel => exact sameIn_updateLevel other.symm
  | credit faction delta => exact sameIn_of_means _ _ _ _ other.symm
  | mark | turnTo | listenTo | moveTo | lean =>
    cases part <;> first | exact absurd rfl other | exact rfl | exact ⟨rfl, rfl⟩ |
      exact ⟨rfl, rfl, rfl, rfl⟩

theorem sameIn_perform {ms : List Mutation} (others : ∀ m ∈ ms, m.part ≠ part) :
    p.SameIn (p.perform ms) part := by
  unfold perform
  induction ms generalizing p with
  | nil => exact .refl p part
  | cons m ms ih =>
    have first := sameIn_mutate (p := p) m (others m List.mem_cons_self)
    exact first.trans (ih fun m' later => others m' (List.mem_cons_of_mem _ later))

end Player

theorem Quest.choices_congr (q : Quest) {p p' : Player} (same : p'.stats = p.stats) :
    q.choices p' = q.choices p := by
  rw [choices, same, choices]

namespace Run

open Player (Mutation SameIn)

variable {s : Scenario} {r : Run} {q : Quest}

def aftermath (s : Scenario) (r : Run) (q : Quest) : List Mutation :=
  (s.linesFor (r.player.arrivedAt q) q).map (fun d => .listenTo (some d.id)) ++
    [.mark q.id .failed] ++ judgment q (attemptAt s r q).1 ++ [.turnTo none, .listenTo none]

theorem part_of_mem_aftermath {m : Mutation} (hm : m ∈ aftermath s r q) :
    m.part ≠ .means ∧ m.part ≠ .place := by
  simp only [aftermath, List.mem_append, List.mem_pair, List.mem_singleton] at hm
  rcases hm with ((listens | rfl) | judges) | rfl | rfl
  · rw [part_of_mem_listening listens]
    exact ⟨nofun, nofun⟩
  · exact ⟨nofun, nofun⟩
  · rw [part_of_mem_judgment judges]
    exact ⟨nofun, nofun⟩
  · exact ⟨nofun, nofun⟩
  · exact ⟨nofun, nofun⟩

theorem player_failure (fails : (attemptAt s r q).1.success = false) :
    (play s r q).player = (r.player.arrivedAt q).perform (aftermath s r q) := by
  have settled : settlement s q (attemptAt s r q).1 = [.mark q.id .failed] := by
    rw [settlement, fails]
    rfl
  rw [player_play, mutations, settled, aftermath]
  simp only [Player.perform_append, ← player_arrive, player_arrive_eq]

theorem choices_attemptAt (s : Scenario) (r : Run) (q : Quest) :
    (attemptAt s r q).1.choices = q.choices r.player := by
  have heard : (r.player.arrivedAt q).SameIn (arrive s r q).player .means := by
    rw [player_arrive_eq]
    apply Player.sameIn_perform
    intro m hm
    rw [part_of_mem_listening hm]
    nofun
  have chosen : (attemptAt s r q).1.choices = q.choices (arrive s r q).player := rfl
  rw [chosen]
  exact q.choices_congr heard.1

theorem alignment_judgment {p : Player} (normalized : p.alignment.IsNormalized) (q : Quest)
    (a : Attempt) : (p.perform (judgment q a)).alignment =
      (p.alignment.add (alignmentDelta q.type a.choices)).renormalize := by
  have shifted (delta : Alignment) :
      (p.shiftAlignment delta).alignment = (p.alignment.add delta).renormalize := rfl
  unfold judgment
  split
  next zero =>
    rw [Alignment.isZero_iff.1 zero, ← shifted, Player.shiftAlignment_zero normalized]
    rfl
  next => rfl

theorem part_of_mem_settlement {a : Attempt} {m : Mutation} (hm : m ∈ settlement s q a) :
    m.part = .progress ∨ m.part = .means := by
  unfold settlement at hm
  rcases List.mem_cons.1 hm with rfl | hm
  · exact .inl rfl
  · right
    split at hm
    · simp only [List.mem_append, List.mem_cons, List.mem_map] at hm
      rcases hm with ⟨_, _, rfl⟩ | rfl | ⟨_, _, rfl⟩ <;> rfl
    · cases hm

/-- An attempt shifts the alignment as the choices of the player before it tell, however it ends. -/
theorem alignment_play (normalized : r.player.alignment.IsNormalized) (s : Scenario) (q : Quest) :
    (play s r q).player.alignment =
      (r.player.alignment.add (alignmentDelta q.type (q.choices r.player))).renormalize := by
  rw [player_play, mutations, Player.perform_append, Player.perform_append]
  -- nothing leans before the judgment or after it
  have untouched : r.player.SameIn
      (r.player.perform (arrival s r.player q ++ settlement s q (attemptAt s r q).1)) .leaning := by
    apply Player.sameIn_perform
    intro m hm
    rcases List.mem_append.1 hm with arrives | settles
    · rcases part_of_mem_arrival arrives with part | part | part <;> simp [part]
    · rcases part_of_mem_settlement settles with part | part <;> simp [part]
  have same : (r.player.perform
      (arrival s r.player q ++ settlement s q (attemptAt s r q).1)).alignment =
        r.player.alignment := untouched
  have closed (p : Player) :
      (p.perform [.turnTo none, .listenTo none]).alignment = p.alignment := rfl
  rw [closed, alignment_judgment (same ▸ normalized), same, choices_attemptAt]

/-- What a failed attempt at a quest changes in the player, and what it leaves. -/
structure Fails (q : Quest) (p p' : Player) : Prop where
  stats : p'.stats = p.stats
  reputation : p'.reputation = p.reputation
  inventory : p'.inventory = p.inventory
  flags : p'.flags = p.flags
  otherQuests : ∀ id, id ≠ q.id → p'.quests.get? id = p.quests.get? id
  quest : ∃ before, p.quests.get? q.id = some before ∧
    p'.quests.get? q.id = some { before with status := .failed, percent := 100 }
  location : p'.location = q.location.getD p.location
  alignment : p'.alignment =
    (p.shiftAlignment (alignmentDelta q.type (q.choices p))).alignment
  currentQuest : p'.currentQuest = p.currentQuest
  currentDialogue : p'.currentDialogue = p.currentDialogue

theorem Ended.get?_failed {a : Attempt} {r r' : Run} (ended : Ended q a r r')
    (fails : a.success = false) {before : QuestProgress}
    (known : r.player.quests.get? q.id = some before) :
    r'.player.quests.get? q.id = some { before with status := .failed, percent := 100 } := by
  rw [ended.quests, Player.get?_setStatus, if_pos rfl, fails, SortedMap.getD,
    Player.get?_setStatus, if_pos rfl, SortedMap.getD, known]
  rfl

theorem fails_of_attempt {before : QuestProgress}
    (known : r.player.quests.get? q.id = some before)
    (idle : r.player.currentQuest = none ∧ r.player.currentDialogue = none)
    (normalized : r.player.alignment.IsNormalized)
    (fails : (attemptAt s r q).1.success = false) : Fails q r.player (play s r q).player := by
  have ended := play_ends s r q
  have same {part : Player.Part} (untouched : ∀ m ∈ aftermath s r q, m.part ≠ part) :
      (r.player.arrivedAt q).SameIn (play s r q).player part := by
    rw [player_failure fails]
    exact Player.sameIn_perform untouched
  obtain ⟨stats, reputation, inventory, flags⟩ := same fun m hm => (part_of_mem_aftermath hm).1
  have place := same fun m hm => (part_of_mem_aftermath hm).2
  exact {
    stats
    reputation
    inventory
    flags
    otherQuests := by
      intro id other
      obtain ⟨_, now⟩ := ended.get? id
      rw [now, if_neg other]
    quest := ⟨before, known, ended.get?_failed fails known⟩
    location := place
    alignment := alignment_play normalized s q
    currentQuest := ended.currentQuest.trans idle.1.symm
    currentDialogue := ended.currentDialogue.trans idle.2.symm }

/-- A failed attempt costs nothing: the player keeps all there is but the standing of the quest, the
place and the alignment, and this shifts as the choices of the player before the attempt tell. -/
theorem failure_spares {o : StartingPlayer} {minutes : Nat} {source next : Random.Source}
    (reached : Reaches s (start s o.player minutes source) r) (picked : pick s r = (some q, next))
    (fails : (attemptAt s { r with source := next } q).1.success = false) :
    (step s r).2 = true ∧ (step s r).1.failed = r.failed + 1 ∧
      Fails q r.player (step s r).1.player := by
  have between := reached.betweenSteps
  obtain ⟨before, known, _⟩ := between.atRest q (mem_quests_of_pick picked)
  have counted := (play_ends s { r with source := next } q).failed
  have spares : Fails q r.player (play s { r with source := next } q).player :=
    fails_of_attempt (r := { r with source := next }) known
      ⟨between.currentQuest, between.currentDialogue⟩ reached.balanced.alignment fails
  rw [fails] at counted
  rw [step, picked]
  exact ⟨rfl, counted, spares⟩

def duel : Quest := { id := "duel", type := .combat, location := some "ring" }

def arena : Scenario :=
  { quests := [{ id := "nap" }, duel], dialogues := [{ id := "taunt", quest := some "duel" }],
    characters := [], style := .aggressive }

def arenaAtStart : Run :=
  start arena ({ inventory := ["sword"] } : StartingPlayer).player 60 (.ofSeed 1)

theorem duel_spares : (step arena arenaAtStart).2 = true ∧ (step arena arenaAtStart).1.failed = 1 ∧
    Fails duel arenaAtStart.player (step arena arenaAtStart).1.player ∧
    (step arena arenaAtStart).1.player.location = "ring" ∧
    (step arena arenaAtStart).1.player.alignment = ⟨0, 95, 5⟩ := by
  have reached : Reaches arena arenaAtStart arenaAtStart := .refl
  have picked : pick arena arenaAtStart = (some duel, .ofSeed 1) := by rfl
  have lost :
      (attemptAt arena { arenaAtStart with source := .ofSeed 1 } duel).1.success = false := by
    decide +kernel
  obtain ⟨goes, counted, fails⟩ := failure_spares reached picked lost
  refine ⟨goes, counted, fails, ?_, ?_⟩
  · rw [fails.location]
    rfl
  · rw [fails.alignment]
    decide +kernel

end Run

end Storyline

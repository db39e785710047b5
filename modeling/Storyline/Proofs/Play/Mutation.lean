import Storyline.Proofs.Play.Replay

/-!
What is done to a player, one mutation at a time. An attempt is a list of mutations in a fixed
order, and a player in balance is in balance after each of them. A shift of alignment counts as one
mutation: nothing is claimed of the shares between the sum and its being normalized.
-/
namespace Storyline

namespace Player

inductive Mutation where
  | mark (quest : RecordId) (status : QuestStatus)
  | turnTo (quest : Option RecordId)
  | listenTo (dialogue : Option RecordId)
  | moveTo (place : String)
  | grant (reward : Reward)
  | raiseLevel
  | credit (faction : String) (delta : Int)
  | lean (delta : Alignment)

inductive Part where
  | progress
  | attention
  | place
  | means
  | leaning

def Mutation.part : Mutation → Part
  | .mark _ _ => .progress
  | .turnTo _ | .listenTo _ => .attention
  | .moveTo _ => .place
  | .grant _ | .raiseLevel | .credit _ _ => .means
  | .lean _ => .leaning

def mutate (p : Player) : Mutation → Player
  | .mark quest status => p.setStatus quest status
  | .turnTo quest => { p with currentQuest := quest }
  | .listenTo dialogue => { p with currentDialogue := dialogue }
  | .moveTo place => { p with location := place }
  | .grant reward => (p.applyReward reward).1
  | .raiseLevel => p.updateLevel.1
  | .credit faction delta => (p.adjustReputation faction delta).1
  | .lean delta => p.shiftAlignment delta

def perform (p : Player) (ms : List Mutation) : Player := ms.foldl mutate p

theorem perform_append (p : Player) (ms ms' : List Mutation) :
    p.perform (ms ++ ms') = (p.perform ms).perform ms' := List.foldl_append

theorem Balanced.mutate {p : Player} (balanced : p.Balanced) (m : Mutation) :
    (p.mutate m).Balanced := by
  cases m with
  | mark quest status => exact ⟨balanced.standing, balanced.alignment⟩
  | turnTo quest => exact ⟨balanced.standing, balanced.alignment⟩
  | listenTo dialogue => exact ⟨balanced.standing, balanced.alignment⟩
  | moveTo place => exact ⟨balanced.standing, balanced.alignment⟩
  | grant reward => exact (p.accounts_applyReward reward 0 balanced).1
  | raiseLevel =>
    have same : { p.updateLevel.1.ledger with status := p.status } =
        { p.ledger with status := p.status } := by rw [p.ledger_updateLevel]
    exact balanced.congr same
  | credit faction delta => exact p.balanced_adjustReputation faction delta balanced
  | lean delta => exact ⟨balanced.standing, Alignment.isNormalized_renormalize _⟩

theorem Balanced.perform {p : Player} (balanced : p.Balanced) (ms : List Mutation) :
    (p.perform ms).Balanced := by
  unfold Player.perform
  induction ms generalizing p with
  | nil => exact balanced
  | cons m ms ih => exact ih (balanced.mutate m)

end Player

namespace Run

open Player (Mutation)

/-! The mutations of an attempt, stage by stage. -/

def enrollment (quests : List Quest) : List Mutation :=
  quests.map fun q => .mark q.id .notStarted

def journey (p : Player) (q : Quest) : List Mutation :=
  match q.location with
  | some place => if place = p.location then [] else [.moveTo place]
  | none => []

def arrival (s : Scenario) (p : Player) (q : Quest) : List Mutation :=
  [.mark q.id .inProgress, .turnTo (some q.id)] ++ journey p q
    ++ (s.linesFor (p.arrivedAt q) q).map fun d => .listenTo (some d.id)

/-- Rewards, the level and what factions credit come with success alone. -/
def settlement (s : Scenario) (q : Quest) (a : Attempt) : List Mutation :=
  .mark q.id (outcomeStatus a.success) ::
    if a.success then
      a.rewards.map .grant ++ .raiseLevel ::
        (q.reputationDeltas s.characters).entries.map fun credit => .credit credit.1 credit.2
    else []

def judgment (q : Quest) (a : Attempt) : List Mutation :=
  if (alignmentDelta q.type a.choices).isZero then [] else [.lean (alignmentDelta q.type a.choices)]

theorem part_of_mem_listening {lines : List Dialogue} {m : Mutation}
    (hm : m ∈ lines.map fun d => .listenTo (some d.id)) : m.part = .attention := by
  obtain ⟨d, _, rfl⟩ := List.mem_map.1 hm
  rfl

theorem part_of_mem_judgment {q : Quest} {a : Attempt} {m : Mutation} (hm : m ∈ judgment q a) :
    m.part = .leaning := by
  unfold judgment at hm
  split at hm
  · cases hm
  · cases List.mem_singleton.1 hm
    rfl

theorem part_of_mem_journey {p : Player} {q : Quest} {m : Mutation} (hm : m ∈ journey p q) :
    m.part = .place := by
  unfold journey at hm
  split at hm
  · split at hm
    · cases hm
    · cases List.mem_singleton.1 hm
      rfl
  · cases hm

theorem part_of_mem_arrival {s : Scenario} {p : Player} {q : Quest} {m : Mutation}
    (hm : m ∈ arrival s p q) : m.part = .progress ∨ m.part = .attention ∨ m.part = .place := by
  simp only [arrival, List.mem_append, List.mem_pair] at hm
  rcases hm with ((rfl | rfl) | travels) | listens
  · exact .inl rfl
  · exact .inr (.inl rfl)
  · exact .inr (.inr (part_of_mem_journey travels))
  · exact .inr (.inl (part_of_mem_listening listens))

def mutations (s : Scenario) (r : Run) (q : Quest) : List Mutation :=
  arrival s r.player q ++ settlement s q (attemptAt s r q).1 ++ judgment q (attemptAt s r q).1
    ++ [.turnTo none, .listenTo none]

theorem enroll_eq (quests : List Quest) (p : Player) :
    enroll quests p = p.perform (enrollment quests) := by
  unfold enroll enrollment Player.perform
  rw [List.foldl_map]
  rfl

theorem player_speakLines (s : Scenario) (time : Nat) (l : List Dialogue) (r : Run) :
    (l.foldl (speakLine s time) r).player =
      r.player.perform (l.map fun d => .listenTo (some d.id)) := by
  induction l generalizing r with
  | nil => rfl
  | cons d l ih => exact ih (speakLine s time r d)

theorem arrivedAt_eq (p : Player) (q : Quest) :
    p.arrivedAt q =
      p.perform ([.mark q.id .inProgress, .turnTo (some q.id)] ++ journey p q) := by
  unfold journey Player.arrivedAt
  cases q.location with
  | none => rfl
  | some place =>
    dsimp only
    split
    · rename_i here
      rw [here]
      rfl
    · rfl

theorem player_arrive_eq (s : Scenario) (r : Run) (q : Quest) : (arrive s r q).player =
    (r.player.arrivedAt q).perform
      ((s.linesFor (r.player.arrivedAt q) q).map fun d => .listenTo (some d.id)) := by
  rw [arrive, speak_eq, player_speakLines, player_travel]

theorem player_arrive (s : Scenario) (r : Run) (q : Quest) :
    (arrive s r q).player = r.player.perform (arrival s r.player q) := by
  rw [player_arrive_eq, arrival, Player.perform_append, ← arrivedAt_eq]

theorem player_record (r : Run) (time : Nat) (changed : Player × Option Change) :
    (r.record time changed).player = changed.1 := by
  obtain ⟨p, change⟩ := changed
  cases change <;> rfl

theorem player_levelUp (r : Run) (time : Nat) :
    (r.levelUp time).player = r.player.updateLevel.1 := by
  unfold levelUp
  split
  · rename_i raised
    rw [raised]
    rfl
  · rename_i raised
    rw [raised]
    rfl

theorem player_rewards (time : Nat) (rewards : List Reward) (r : Run) :
    (rewards.foldl (reward time) r).player = r.player.perform (rewards.map .grant) := by
  induction rewards generalizing r with
  | nil => rfl
  | cons w rewards ih =>
    rw [List.foldl_cons, ih, reward, player_record]
    rfl

theorem player_credits (time : Nat) (credits : List (String × Int)) (r : Run) :
    (credits.foldl (creditFaction time) r).player =
      r.player.perform (credits.map fun credit => .credit credit.1 credit.2) := by
  induction credits generalizing r with
  | nil => rfl
  | cons c credits ih =>
    rw [List.foldl_cons, ih, creditFaction, player_record]
    rfl

theorem player_settle (s : Scenario) (r : Run) (q : Quest) (a : Attempt) (time : Nat) :
    (settle s r q a time).player = r.player.perform (settlement s q a) := by
  unfold settle settlement
  cases success : a.success with
  | false => rfl
  | true =>
    simp only [complete, if_true]
    rw [player_credits, player_levelUp, player_rewards, ← List.singleton_append,
      ← List.singleton_append (x := Mutation.raiseLevel), Player.perform_append,
      Player.perform_append, Player.perform_append]
    rfl

theorem player_judge (r : Run) (q : Quest) (a : Attempt) (time : Nat) :
    (r.judge q a time).player = r.player.perform (judgment q a) := by
  unfold judge judgment
  dsimp only
  split
  · rfl
  · split <;> rfl

theorem player_play (s : Scenario) (r : Run) (q : Quest) :
    (play s r q).player = r.player.perform (mutations s r q) := by
  have closed : (play s r q).player =
      ((settle s { arrive s r q with source := (attemptAt s r q).2 } q (attemptAt s r q).1
        (r.clock.elapsed + (attemptAt s r q).1.seconds)).judge q (attemptAt s r q).1
        (r.clock.elapsed + (attemptAt s r q).1.seconds)).player.perform
        [.turnTo none, .listenTo none] := by
    rw [play_eq]
    rfl
  rw [closed, player_judge, player_settle, player_arrive, mutations]
  simp only [Player.perform_append]

theorem step_of_pick {s : Scenario} {r : Run} {q : Quest} {next : Random.Source}
    (picked : pick s r = (some q, next)) : (step s r).1 = play s { r with source := next } q := by
  rw [step, picked]

/-- Standing and alignment keep their bounds all the time. They do so for any starting player, after
each quest is put on record, in every run that steps lead to, and after each single mutation of the
next attempt. The mutations are all that the attempt does to the player. -/
theorem balanced_throughout (s : Scenario) (o : StartingPlayer) (minutes : Nat)
    (source : Random.Source) :
    (start s o.player minutes source).player = o.player.perform (enrollment s.quests) ∧
    (∀ ms, ms <+: enrollment s.quests → (o.player.perform ms).Balanced) ∧
    ∀ r, Reaches s (start s o.player minutes source) r → r.player.Balanced ∧
      ∀ q next, pick s r = (some q, next) →
        (step s r).1.player = r.player.perform (mutations s { r with source := next } q) ∧
        ∀ ms, ms <+: mutations s { r with source := next } q → (r.player.perform ms).Balanced := by
  refine ⟨enroll_eq s.quests o.player, fun ms _ => o.balanced_player.perform ms, ?_⟩
  intro r reached
  have balanced := reached.balanced
  refine ⟨balanced, ?_⟩
  intro q next picked
  refine ⟨?_, fun ms _ => balanced.perform ms⟩
  rw [step_of_pick picked, player_play]

/-! A player who starts beyond all bounds, and a quest that grants more than there is. -/

def revenge : Quest :=
  { id := "revenge", title := "Mira must fall", type := .betrayal
    rewards := [{ kind := .reputation, value := "guild", amount := 1e30 },
      { kind := .reputation, value := "guild", amount := -1e30 }] }

def feud : Scenario :=
  { quests := [revenge], dialogues := [], characters := [{ id := "mira", name := "Mira" }],
    style := .balanced }

def rogue : StartingPlayer :=
  { reputation := .ofList [("guild", Bounded.greatest), ("Mira", Bounded.least)]
    alignment := some ⟨Bounded.greatest, Bounded.least, 1⟩ }

def feudAtStart : Run := start feud rogue.player 60 (.ofSeed 1)

theorem feud_balanced : ∃ q next, pick feud feudAtStart = (some q, next) ∧
    ∀ ms, ms <+: mutations feud { feudAtStart with source := next } q →
      (feudAtStart.player.perform ms).Balanced := by
  obtain ⟨_, _, always⟩ := balanced_throughout feud rogue 60 (.ofSeed 1)
  obtain ⟨_, afterEach⟩ := always feudAtStart .refl
  have can : feudAtStart.canStart revenge = true := by
    simp [canStart, feudAtStart, status_start, revenge]
  obtain ⟨r, goes⟩ := exists_step (s := feud) List.mem_cons_self can
  obtain ⟨q, _, _, next, picked, _⟩ := exists_picked goes
  exact ⟨q, next, picked, (afterEach q next picked).2⟩

end Run

end Storyline

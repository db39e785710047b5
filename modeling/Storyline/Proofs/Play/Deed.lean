import Storyline.Proofs.Play.Failure
import Storyline.Proofs.Play.Share

/-!
Deeds and the evil share of a player. Unless a quest is a fight with nothing but attacks, what the
choices in it add is good or neutral. Rounding may then raise the evil share all the same, by one at
a time and not beyond one half.
-/
namespace Storyline

/-- A fight in which nothing is chosen but to attack. -/
def Quest.IsAssault (q : Quest) (choices : List String) : Prop :=
  q.type = .combat ∧ choices = ["attack the enemy"]

namespace Quest

variable (q : Quest) (p : Player)

theorem choices_combat (combat : q.type = .combat) : q.choices p =
    if 5 ≤ p.stats.level then ["attack the enemy", "protect the innocent"]
    else ["attack the enemy"] := by
  unfold choices
  rw [combat]
  dsimp only
  split <;> rfl

theorem isAssault_iff : q.IsAssault (q.choices p) ↔ q.type = .combat ∧ p.stats.level < 5 := by
  unfold IsAssault
  refine and_congr_right fun combat => ?_
  rw [q.choices_combat p combat]
  split <;> simp <;> omega

def kindDeeds : List Alignment := [.zero, ⟨5, 0, 0⟩, ⟨0, 2, 0⟩, ⟨3, 2, 0⟩, ⟨0, 3, 0⟩]

theorem alignmentDelta_mem_kindDeeds (peaceful : ¬ q.IsAssault (q.choices p)) :
    alignmentDelta q.type (q.choices p) ∈ kindDeeds := by
  cases type : q.type with
  | combat =>
    have seasoned : 5 ≤ p.stats.level := by
      rw [isAssault_iff] at peaceful
      exact Int.not_lt.1 fun green => peaceful ⟨type, green⟩
    rw [q.choices_combat p type, if_pos seasoned]
    decide
  | dialogue =>
    unfold alignmentDelta
    dsimp only
    split <;> decide
  | _ =>
    unfold alignmentDelta
    dsimp only
    decide

theorem isKind_of_mem_kindDeeds {delta : Alignment} (deed : delta ∈ kindDeeds) :
    delta.IsKind ∧ (delta = .zero ∨ 2 ≤ delta.good + delta.neutral) := by
  have all : ∀ delta ∈ kindDeeds, (0 ≤ delta.good ∧ 0 ≤ delta.neutral ∧ delta.evil = 0) ∧
      (delta = .zero ∨ 2 ≤ delta.good + delta.neutral) := by decide
  obtain ⟨⟨good, neutral, evil⟩, counts⟩ := all delta deed
  exact ⟨⟨good, neutral, evil⟩, counts⟩

end Quest

namespace Run

variable {s : Scenario} {r r' : Run} {q : Quest}

def IsPeaceful (s : Scenario) (r : Run) : Prop :=
  ∀ q source, pick s r = (some q, source) →
    ¬ q.IsAssault (attemptAt s { r with source } q).1.choices

def ReachesInPeace (s : Scenario) : Run → Run → Prop :=
  Relation.ReflTransGen fun r r' => (step s r).1 = r' ∧ IsPeaceful s r

theorem ReachesInPeace.reaches (peace : ReachesInPeace s r r') : Reaches s r r' :=
  Relation.ReflTransGen.mono (fun _ _ next => next.1) _ _ peace

theorem evil_play (s : Scenario) (normalized : r.player.alignment.IsNormalized)
    (peaceful : ¬ q.IsAssault (q.choices r.player)) :
    (play s r q).player.alignment.evil ≤ r.player.alignment.evil + 1 ∧
    (play s r q).player.alignment.evil ≤ max r.player.alignment.evil 50 := by
  obtain ⟨kind, counts⟩ :=
    Quest.isKind_of_mem_kindDeeds (q.alignmentDelta_mem_kindDeeds r.player peaceful)
  rw [alignment_play normalized]
  have one := normalized.evil_le_add_one kind
  refine ⟨one, ?_⟩
  rcases counts with nothing | counts
  · rw [nothing, normalized.add_zero, normalized.renormalize]
    exact Int.le_max_left ..
  · rcases Int.lt_or_le r.player.alignment.evil 50 with below | half
    · omega
    · exact Int.le_trans (normalized.evil_le_of_half kind counts half) (Int.le_max_left ..)

theorem evil_step (normalized : r.player.alignment.IsNormalized) (peaceful : IsPeaceful s r) :
    (step s r).1.player.alignment.evil ≤
      r.player.alignment.evil + (((step s r).1.attempted : Int) - r.attempted) ∧
    (step s r).1.player.alignment.evil ≤ max r.player.alignment.evil 50 := by
  rcases step_cases s r with ⟨stays, _⟩ | ⟨q, _, _, source, picked, goes⟩
  · rw [stays]
    dsimp only
    exact ⟨by omega, Int.le_max_left ..⟩
  · have choices := peaceful q source picked
    rw [choices_attemptAt] at choices
    have counted : (play s { r with source } q).attempted = r.attempted + 1 :=
      (play_ends s { r with source } q).attempted
    obtain ⟨one, bounded⟩ := evil_play s (r := { r with source }) normalized choices
    rw [goes]
    dsimp only at one bounded ⊢
    rw [counted]
    exact ⟨by omega, bounded⟩

/-- A deed that is good or neutral raises the evil share by one at most, and it does just where more
is cut off the other shares than evil loses. So in a run, as long as no assault is played, the evil
share rises by no more than one a quest, and it does not rise beyond one half. -/
theorem evil_hardly_rises :
    (∀ (p : Player) (delta : Alignment), p.alignment.IsNormalized → delta.IsKind →
      (p.shiftAlignment delta).alignment.evil ≤ p.alignment.evil + 1 ∧
      (p.alignment.evil < (p.shiftAlignment delta).alignment.evil ↔
        p.alignment.evil * ((p.alignment.add delta).whole - 100) <
          (p.alignment.add delta).cutOff)) ∧
    ∀ (s : Scenario) (o : StartingPlayer) (minutes : Nat) (source : Random.Source) (r r' : Run),
      Reaches s (start s o.player minutes source) r → ReachesInPeace s r r' →
      r'.player.alignment.evil ≤
        r.player.alignment.evil + ((r'.attempted : Int) - r.attempted) ∧
      r'.player.alignment.evil ≤ max r.player.alignment.evil 50 := by
  constructor
  · intro p delta normalized kind
    exact ⟨normalized.evil_le_add_one kind, normalized.evil_lt_iff kind⟩
  · intro s o minutes source r r' reached peace
    induction peace with
    | refl => exact ⟨by omega, Int.le_max_left ..⟩
    | @tail middle last before next ih =>
      obtain ⟨rfl, peaceful⟩ := next
      have there : Reaches s (start s o.player minutes source) middle :=
        reached.trans (ReachesInPeace.reaches before)
      obtain ⟨counted, bounded⟩ := evil_step there.balanced.alignment peaceful
      exact ⟨by omega, by omega⟩

/-! A promise, given by someone who has nothing evil on record. -/

def vow : Quest := { id := "vow", type := .dialogue }

def meeting : Scenario :=
  { quests := [vow], dialogues := [], characters := [], style := .balanced }

def novice : StartingPlayer := { stats := { level := some 3 } }

def meetingAtStart : Run := start meeting novice.player 60 (.ofSeed 2)

theorem meeting_in_peace :
    ReachesInPeace meeting meetingAtStart (step meeting meetingAtStart).1 := by
  refine .single ⟨rfl, ?_⟩
  rintro q source picked ⟨combat, _⟩
  obtain rfl := List.mem_singleton.1 (mem_quests_of_pick picked)
  cases combat

theorem isKind_promise : Alignment.IsKind ⟨3, 2, 0⟩ := ⟨by decide, by decide, rfl⟩

theorem vow_hardly_raises : (({} : Player).shiftAlignment ⟨3, 2, 0⟩).alignment.evil ≤ 1 ∧
    0 < (({} : Player).shiftAlignment ⟨3, 2, 0⟩).alignment.evil ∧
    (step meeting meetingAtStart).1.player.alignment.evil ≤ 50 := by
  obtain ⟨deeds, runs⟩ := evil_hardly_rises
  obtain ⟨one, rises⟩ := deeds {} ⟨3, 2, 0⟩ Alignment.isNormalized_default isKind_promise
  obtain ⟨_, bounded⟩ := runs meeting novice 60 (.ofSeed 2) _ _ .refl meeting_in_peace
  exact ⟨one, rises.2 (by decide), bounded⟩

theorem vow_raises :
    (({} : Player).alignment.IsNormalized ∧ Alignment.IsKind ⟨3, 2, 0⟩ ∧
      ({} : Player).alignment.evil = 0 ∧
      (({} : Player).shiftAlignment ⟨3, 2, 0⟩).alignment.evil = 1) ∧
    ReachesInPeace meeting meetingAtStart (step meeting meetingAtStart).1 ∧
      meetingAtStart.player.alignment.evil = 0 ∧
      (step meeting meetingAtStart).1.player.alignment.evil = 1 := by
  refine ⟨⟨Alignment.isNormalized_default, isKind_promise, rfl, by decide⟩, meeting_in_peace,
    rfl, ?_⟩
  decide +kernel

end Run

end Storyline

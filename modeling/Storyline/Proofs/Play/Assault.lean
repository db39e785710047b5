import Storyline.Proofs.Play.Deed

/-!
Assaults show. An attempt adds at most one event of a shift of alignment to the log, and it does so
just where the shares came out different. An assault gives to no one but evil, so its event is there
and tells of evil gained, until evil has all.
-/
namespace Storyline

structure Event.Turns (e : Event) (delta alignment : Alignment) : Prop where
  kind : e.kind = .alignmentChange
  delta : e.field? "delta" Alignment.ofJson? = some delta
  alignment : e.field? "alignment" Alignment.ofJson? = some alignment

theorem Event.turns_of_account? {e : Event} {delta alignment : Alignment}
    (h : e.account? = some (.leans delta alignment)) : e.Turns delta alignment := by
  unfold account? at h
  cases kind : e.kind with
  | alignmentChange =>
    simp only [kind, bind, Option.bind_eq_some_iff] at h
    obtain ⟨_, shifted, _, reached, same⟩ := h
    cases same
    exact ⟨kind, shifted, reached⟩
  | _ => simp [kind, bind, Option.bind_eq_some_iff] at h

namespace Ledger

variable {l l' : Ledger} {es : List Event} {e : Event} {n : Entry}

theorem alignment_enter (read : e.account? = some n) (other : e.kind ≠ .alignmentChange) :
    (l.enter n).alignment = l.alignment := by
  cases n with
  | leans => exact absurd (Event.turns_of_account? read).kind other
  | _ => rfl

theorem exists_leans (read : e.account? = some n) (kind : e.kind = .alignmentChange) :
    ∃ delta alignment, n = .leans delta alignment := by
  simp only [Event.account?, kind, bind, Option.bind_eq_some_iff] at read
  obtain ⟨delta, _, alignment, _, same⟩ := read
  cases same
  exact ⟨delta, alignment, rfl⟩

namespace Follows

theorem alignment_eq (told : Follows l es l') (others : ∀ e ∈ es, e.kind ≠ .alignmentChange) :
    l'.alignment = l.alignment := by
  induction es generalizing l with
  | nil =>
    obtain ⟨_, read, rfl, _⟩ := told
    cases read
    rfl
  | cons e es ih =>
    have told : Follows l ([e] ++ es) l' := told
    obtain ⟨middle, first, rest⟩ := told.split
    obtain ⟨other, others⟩ := List.forall_mem_cons.1 others
    obtain ⟨n, read, _, rfl⟩ := first.exists_entry
    rw [ih rest others, alignment_enter read other]

theorem exists_turn (told : Follows l [e] l') (kind : e.kind = .alignmentChange) :
    ∃ delta, e.Turns delta l'.alignment ∧
      delta.evil = l'.alignment.evil - l.alignment.evil ∧ l'.alignment ≠ l.alignment := by
  obtain ⟨n, read, admitted, rfl⟩ := told.exists_entry
  obtain ⟨delta, alignment, rfl⟩ := exists_leans read kind
  obtain ⟨shifts, good, neutral, evil⟩ := admitted
  refine ⟨delta, Event.turns_of_account? read, evil, ?_⟩
  rintro rfl
  rw [Int.sub_self] at good neutral evil
  exact shifts (Alignment.ext good neutral evil)

end Follows

end Ledger

/-- Events tell of a shift of alignment, and of what it gave to evil, just where there is one. -/
structure Shows (es : List Event) (before after : Alignment) : Prop where
  still : after = before → ∀ e ∈ es, e.kind ≠ .alignmentChange
  turned : after ≠ before → ∃ e ∈ es, ∃ delta, e.Turns delta after ∧
    delta.evil = after.evil - before.evil

namespace Block

variable {b : Block} {s : Scenario} {p : Player} {q : Quest} {start finish : Nat} {l l' : Ledger}

theorem TellsOf.ne_alignmentChange (h : b.TellsOf s p q start finish) :
    ∀ e ∈ b.opening ++ b.ended :: b.changes, e.kind ≠ .alignmentChange := by
  simp only [Block.opening, List.forall_mem_append, List.forall_mem_cons]
  refine ⟨⟨?_, ?_, ?_⟩, ?_, ?_⟩
  · simp [h.begun.1]
  · exact fun e he => by simp [h.moves.2 e he]
  · exact fun e he => by simp [h.kind_of_mem_lines e he]
  · simp [h.ended.1]
  · exact fun e he => (h.changes e he).ne_alignmentChange

theorem TellsOf.shows (h : b.TellsOf s p q start finish) (told : l.Follows b.events l') :
    Shows b.events l.alignment l'.alignment := by
  have parts : b.events = (b.opening ++ b.ended :: b.changes) ++ b.shifts := by
    simp [events, Block.closing]
  rw [parts] at told ⊢
  obtain ⟨middle, first, last⟩ := told.split
  have before := h.ne_alignmentChange
  rw [← first.alignment_eq before]
  obtain ⟨few, kinds⟩ := h.shifts
  generalize b.shifts = shifts at last few kinds
  match shifts with
  | [] =>
    rw [List.append_nil]
    exact ⟨fun _ => before, fun moved => absurd (last.alignment_eq (by simp)) moved⟩
  | [e] =>
    obtain ⟨delta, turns, evil, moved⟩ := last.exists_turn (kinds e List.mem_cons_self)
    exact ⟨fun same => absurd same moved, fun _ => ⟨e, by simp, delta, turns, evil⟩⟩

end Block

namespace Run

variable {s : Scenario} {r : Run} {q : Quest} {next : Random.Source}

theorem exists_shows (balanced : r.player.Balanced) (picked : pick s r = (some q, next)) :
    ∃ es : List Event, (step s r).1.log = es.foldl EventLog.push r.log ∧
      Shows es r.player.alignment (step s r).1.player.alignment := by
  rw [step_of_pick picked]
  obtain ⟨b, tells, _, logged, account⟩ := exists_block s { r with source := next } q
  obtain ⟨_, told⟩ := account balanced
  exact ⟨b.events, logged, tells.shows told⟩

theorem alignment_step (normalized : r.player.alignment.IsNormalized)
    (picked : pick s r = (some q, next)) : (step s r).1.player.alignment =
      (r.player.alignment.add (alignmentDelta q.type (q.choices r.player))).renormalize := by
  rw [step_of_pick picked]
  exact alignment_play (r := { r with source := next }) normalized s q

theorem isWicked_alignmentDelta (p : Player) (combat : q.type = .combat)
    (green : p.stats.level < 5) : (alignmentDelta q.type (q.choices p)).IsWicked := by
  rw [q.choices_combat p combat, if_neg (by omega), combat]
  exact ⟨by decide, by decide, by decide⟩

/-- An assault shows. A deed that is evil and nothing else raises the evil share, where it is below
one hundred, and neither of the others. So in every run that steps lead to, a fight of a player who
is below level five when it begins adds an event to the log that tells of evil gained, however the
fight ends. Only where evil has all already there is no such event. -/
theorem assault_shows :
    (∀ (p : Player) (delta : Alignment), p.alignment.IsNormalized → p.alignment.evil < 100 →
      delta.IsWicked →
      p.alignment.evil < (p.shiftAlignment delta).alignment.evil ∧
      (p.shiftAlignment delta).alignment.good ≤ p.alignment.good ∧
      (p.shiftAlignment delta).alignment.neutral ≤ p.alignment.neutral ∧
      (p.shiftAlignment delta).alignment.IsNormalized) ∧
    ∀ (s : Scenario) (o : StartingPlayer) (minutes : Nat) (source next : Random.Source) (r : Run)
      (q : Quest), Reaches s (start s o.player minutes source) r → pick s r = (some q, next) →
      q.type = .combat → r.player.stats.level < 5 →
      ∃ es : List Event, (step s r).1.log = es.foldl EventLog.push r.log ∧
        (r.player.alignment.evil ≠ 100 → ∃ e ∈ es, ∃ delta,
          e.Turns delta (step s r).1.player.alignment ∧
          delta.evil = (step s r).1.player.alignment.evil - r.player.alignment.evil ∧
          0 < delta.evil) ∧
        (r.player.alignment.evil = 100 → ∀ e ∈ es, e.kind ≠ .alignmentChange) := by
  constructor
  · intro p delta normalized room wicked
    obtain ⟨good, neutral, evil⟩ := normalized.shift_wicked wicked
    exact ⟨evil room, good, neutral, Alignment.isNormalized_renormalize _⟩
  · intro s o minutes source next r q reached picked combat green
    have normalized := reached.balanced.alignment
    have wicked := isWicked_alignmentDelta r.player combat green
    -- the choices are made before the attempt, so a level gained in it does not count
    have shifted := alignment_step normalized picked
    obtain ⟨es, logged, shows⟩ := exists_shows reached.balanced picked
    refine ⟨es, logged, fun room => ?_, fun all => shows.still ?_⟩
    · obtain ⟨_, _, rises⟩ := normalized.shift_wicked wicked
      have total := normalized.total
      have good := normalized.good
      have neutral := normalized.neutral
      have gained := rises (by omega)
      rw [← shifted] at gained
      obtain ⟨e, he, delta, turns, evil⟩ := shows.turned fun same => by
        rw [same] at gained
        omega
      exact ⟨e, he, delta, turns, evil, by omega⟩
    · rw [shifted, normalized.shift_wicked_eq wicked all]

/-! A squire wins a fight. -/

def joust : Quest := { id := "joust", type := .combat }

def tiltyard : Scenario :=
  { quests := [joust], dialogues := [], characters := [], style := .aggressive }

def squire : StartingPlayer := { stats := { level := some 4 } }

def tiltyardAtStart : Run := start tiltyard squire.player 60 (.ofSeed 2)

theorem joust_shows :
    (({} : Player).shiftAlignment ⟨0, 0, 5⟩).alignment.IsNormalized ∧
    (attemptAt tiltyard { tiltyardAtStart with source := .ofSeed 2 } joust).1.success = true ∧
    ∃ es : List Event,
      (step tiltyard tiltyardAtStart).1.log = es.foldl EventLog.push tiltyardAtStart.log ∧
      ∃ e ∈ es, ∃ delta, e.Turns delta ⟨0, 95, 5⟩ ∧ delta.evil = 5 := by
  have picked : pick tiltyard tiltyardAtStart = (some joust, .ofSeed 2) := by rfl
  obtain ⟨deeds, attempts⟩ := assault_shows
  obtain ⟨_, _, _, normalized⟩ :=
    deeds {} ⟨0, 0, 5⟩ Alignment.isNormalized_default (by decide) ⟨rfl, rfl, by decide⟩
  obtain ⟨es, logged, shown, _⟩ :=
    attempts tiltyard squire 60 (.ofSeed 2) _ tiltyardAtStart _ .refl picked rfl (by decide)
  obtain ⟨e, he, delta, turns, evil, _⟩ := shown (by decide)
  have reached : (step tiltyard tiltyardAtStart).1.player.alignment = ⟨0, 95, 5⟩ := by
    rw [alignment_step Alignment.isNormalized_default picked]
    decide
  rw [reached] at turns evil
  exact ⟨normalized, by decide +kernel, es, logged, e, he, delta, turns, evil⟩

end Run

end Storyline

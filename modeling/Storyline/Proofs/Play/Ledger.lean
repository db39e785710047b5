import Mathlib.Logic.Function.Basic
import Storyline.Play.Event
import Storyline.Player.Basic

/-!
The ledger that the log of a run keeps: what a player carries, where the player is and stands, and
how the quests came out. Events are read into entries by their kind and data alone. Stats are not
part of the ledger, since a log does not tell all that happens to them.
-/
namespace Storyline

@[ext] structure Ledger where
  inventory : SortedSet String
  flags : SortedMap String Bool
  alignment : Alignment
  location : String
  /-- An unknown faction counts as zero. -/
  standing : String → Int
  status : RecordId → QuestStatus

def Player.ledger (p : Player) : Ledger :=
  { inventory := p.inventory, flags := p.flags, alignment := p.alignment, location := p.location,
    standing := p.standing, status := p.status }

inductive Ledger.Entry where
  | gained (item : String)
  | lost (item : String)
  | flagged (flag : String) (value : Bool)
  | stands (faction : String) (delta standing : Int)
  | leans (delta alignment : Alignment)
  | moved (origin place : String)
  | ended (quest : RecordId) (success : Bool)
  | aside

namespace Event

variable {α : Type}

def field? (e : Event) (name : String) (value : Json → Option α) : Option α :=
  (e.data.field? name).bind value

theorem field?_text_eq_some_iff {e : Event} {name text : String} :
    e.field? name Json.text? = some text ↔ e.data.field? name = some (.string text) := by
  have read : ∀ j : Json, j.text? = some text ↔ j = .string text := by
    intro j
    cases j <;> simp [Json.text?]
  simp [field?, Option.bind_eq_some_iff, read]

theorem field?_flag_eq_some_iff {e : Event} {name : String} {value : Bool} :
    e.field? name Json.flag? = some value ↔ e.data.field? name = some (.bool value) := by
  have read : ∀ j : Json, j.flag? = some value ↔ j = .bool value := by
    intro j
    cases j <;> simp [Json.flag?]
  simp [field?, Option.bind_eq_some_iff, read]

/-- Reads an entry. An event of a kind that the ledger keeps has to carry the fields of its kind. -/
def account? (e : Event) : Option Ledger.Entry :=
  match e.kind with
  | .itemGain => do return .gained (← e.field? "item" Json.text?)
  | .itemLoss => do return .lost (← e.field? "item" Json.text?)
  | .flagSet => do return .flagged (← e.field? "flag" Json.text?) (← e.field? "value" Json.flag?)
  | .reputationChange => do
    return .stands (← e.field? "faction" Json.text?) (← e.field? "delta" Json.integer?)
      (← e.field? "standing" Json.integer?)
  | .alignmentChange => do
    return .leans (← e.field? "delta" Alignment.ofJson?) (← e.field? "alignment" Alignment.ofJson?)
  | .locationChange => do
    return .moved (← e.field? "from" Json.text?) (← e.field? "to" Json.text?)
  | .questComplete => do
    return .ended (← e.field? "quest_id" Json.text?) (← e.field? "success" Json.flag?)
  | .questStart | .dialogue | .statChange => some .aside

end Event

namespace Ledger

def enter (l : Ledger) : Entry → Ledger
  | .gained item => { l with inventory := l.inventory.insert item }
  | .lost item => { l with inventory := l.inventory.erase item }
  | .flagged flag value => { l with flags := l.flags.insert flag value }
  | .stands faction delta _ =>
    { l with standing := Function.update l.standing faction (l.standing faction + delta) }
  | .leans _ alignment => { l with alignment }
  | .moved _ place => { l with location := place }
  | .ended quest success =>
    { l with status := Function.update l.status quest (if success then .completed else .failed) }
  | .aside => l

def Admits (l : Ledger) : Entry → Prop
  | .gained item => l.inventory.contains item = false
  | .lost item => l.inventory.contains item = true
  | .stands faction delta standing => delta ≠ 0 ∧ standing = l.standing faction + delta
  | .leans delta alignment =>
    delta ≠ .zero ∧ delta.good = alignment.good - l.alignment.good ∧
      delta.neutral = alignment.neutral - l.alignment.neutral ∧
      delta.evil = alignment.evil - l.alignment.evil
  | .moved origin place => origin = l.location ∧ place ≠ l.location
  | .flagged .. | .ended .. | .aside => True

def AdmitsAll : Ledger → List Entry → Prop
  | _, [] => True
  | l, n :: rest => l.Admits n ∧ (l.enter n).AdmitsAll rest

/-- Events can be read, are admitted one after the other, and take a ledger to another. -/
def Follows (l : Ledger) (events : List Event) (l' : Ledger) : Prop :=
  ∃ entries, events.mapM Event.account? = some entries ∧ entries.foldl enter l = l' ∧
    l.AdmitsAll entries

variable {l l' l'' : Ledger} {es es' : List Event}

theorem admitsAll_append (l : Ledger) (first rest : List Entry) :
    l.AdmitsAll (first ++ rest) ↔ l.AdmitsAll first ∧ (first.foldl enter l).AdmitsAll rest := by
  induction first generalizing l with
  | nil => simp [AdmitsAll]
  | cons n first ih => simp only [List.cons_append, AdmitsAll, ih, List.foldl_cons, and_assoc]

theorem Follows.of_eq (same : l = l') : Follows l [] l' := ⟨[], rfl, same, trivial⟩

theorem Follows.single {e : Event} {n : Entry} (read : e.account? = some n) (admitted : l.Admits n)
    (entered : l.enter n = l') : Follows l [e] l' :=
  ⟨[n], by simp [read], entered, admitted, trivial⟩

theorem Follows.append (first : Follows l es l') (rest : Follows l' es' l'') :
    Follows l (es ++ es') l'' := by
  obtain ⟨entries, read, rfl, admitted⟩ := first
  obtain ⟨entries', read', rfl, admitted'⟩ := rest
  refine ⟨entries ++ entries', ?_, List.foldl_append, ?_⟩
  · simp [List.mapM_append, read, read']
  · exact (admitsAll_append ..).2 ⟨admitted, admitted'⟩

theorem Follows.exists_entry {e : Event} (told : Follows l [e] l') :
    ∃ n, e.account? = some n ∧ l.Admits n ∧ l.enter n = l' := by
  obtain ⟨entries, read, entered, admitted⟩ := told
  simp only [List.mapM_cons, List.mapM_nil, bind, Option.bind_eq_some_iff] at read
  obtain ⟨n, here, _, nothing, same⟩ := read
  cases nothing
  cases same
  exact ⟨n, here, admitted.1, entered⟩

theorem Follows.split (told : Follows l (es ++ es') l'') :
    ∃ l', Follows l es l' ∧ Follows l' es' l'' := by
  obtain ⟨entries, read, entered, admitted⟩ := told
  simp only [List.mapM_append, bind, Option.bind_eq_some_iff] at read
  obtain ⟨first, here, rest, there, same⟩ := read
  cases same
  rw [List.foldl_append] at entered
  obtain ⟨admitted, admitted'⟩ := (admitsAll_append ..).1 admitted
  exact ⟨first.foldl enter l, ⟨first, here, rfl, admitted⟩, ⟨rest, there, entered, admitted'⟩⟩

theorem mem_of_completed {entries : List Entry} {id : RecordId}
    (finished : (entries.foldl enter l).status id = .completed)
    (unfinished : l.status id ≠ .completed) : .ended id true ∈ entries := by
  induction entries generalizing l with
  | nil => exact absurd finished unfinished
  | cons n rest ih =>
    by_cases here : n = .ended id true
    · exact here ▸ List.mem_cons_self
    · -- any other entry leaves the quest short of completion
      refine List.mem_cons_of_mem _ (ih finished ?_)
      cases n with
      | ended quest success =>
        by_cases same : id = quest
        · subst same
          cases success with
          | false => simp [enter]
          | true => exact absurd rfl here
        · simpa [enter, Function.update_of_ne same] using unfinished
      | _ => exact unfinished

end Ledger

end Storyline

import Storyline.Content.Quest
import Storyline.Random.Source

/-! Play styles, and the quest that a style picks among those available. -/
namespace Storyline

inductive PlayStyle where
  | aggressive
  | diplomatic
  | exploration
  | balanced
  deriving DecidableEq

namespace PlayStyle

def all : List PlayStyle := [aggressive, diplomatic, exploration, balanced]

def name : PlayStyle → String
  | aggressive => "aggressive"
  | diplomatic => "diplomatic"
  | exploration => "exploration"
  | balanced => "balanced"

def ofName? (name : String) : Option PlayStyle := all.find? (·.name = name)

def ofTag (tag : String) : PlayStyle :=
  match Text.lower (Text.trim tag) with
  | "aggressive" => aggressive
  | "diplomatic" => diplomatic
  | "exploration" | "explorer" => exploration
  | _ => balanced

def preferred? : PlayStyle → Option QuestType
  | aggressive => some .combat
  | diplomatic => some .dialogue
  | exploration => some .exploration
  | balanced => none

def hasType (quests : List Quest) (t : QuestType) (i : Nat) : Bool :=
  quests[i]?.any (·.type = t)

/-- Picks one of the available positions. A style with a preferred type takes the first quest of
that type, else the first, and draws nothing; balanced play draws. -/
def select (style : PlayStyle) (quests : List Quest) (available : List Nat) (s : Random.Source) :
    Option Nat × Random.Source :=
  match available with
  | [] => (none, s)
  | first :: _ =>
    match style.preferred? with
    | some t => (some ((available.find? (hasType quests t)).getD first), s)
    | none =>
      let (k, s) := s.below available.length
      (some (available.getD k first), s)

end PlayStyle

end Storyline

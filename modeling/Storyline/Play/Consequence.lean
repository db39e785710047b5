import Storyline.Content.Project
import Storyline.Player.Alignment

/-! What a quest does to standing and alignment. -/
namespace Storyline

namespace Quest

def story (q : Quest) : String := Text.lower (q.title ++ " " ++ q.description)

def mentions (q : Quest) (c : Character) : Bool :=
  !Text.isBlankText c.name && Text.occursIn (Text.lower c.name) q.story

def charactersMentioned (q : Quest) (characters : List Character) : List Character :=
  characters.filter q.mentions

def creditFor (c : Character) : Int :=
  if c.hasTrait "friendly" then 6 else if c.hasTrait "hostile" then 4 else 5

def signOf (t : QuestType) : Int := if t = .betrayal then -1 else 1

def credit (q : Quest) (deltas : SortedMap String Int) (c : Character) : SortedMap String Int :=
  deltas.insert c.factionKey (deltas.getD c.factionKey 0 + signOf q.type * creditFor c)

def reputationDeltas (q : Quest) (characters : List Character) : SortedMap String Int :=
  ((q.charactersMentioned characters).foldl q.credit ∅).filter fun _ delta => delta ≠ 0

end Quest

def anyChoice (choices words : List String) : Bool :=
  choices.any fun c => words.any fun w => Text.occursIn w (Text.lower c)

/-- What the choices in a quest of that type add to the alignment, before it is normalized. -/
def alignmentDelta (t : QuestType) (choices : List String) : Alignment :=
  match t with
  | .combat =>
    if anyChoice choices ["defend", "protect"] then ⟨5, 0, 0⟩
    else if anyChoice choices ["attack", "kill"] then ⟨0, 0, 5⟩
    else .zero
  | .dialogue => ⟨if anyChoice choices ["help", "agree"] then 3 else 0, 2, 0⟩
  | .exploration => ⟨0, 3, 0⟩
  | _ => .zero

end Storyline

import Storyline.Proofs.Play.Credit
import Storyline.Proofs.Text.Occurrence

/-!
Which characters a quest mentions. A name is looked for in the title and the description joined by a
space, so besides the names that occur in one of the two those are found that go from the one across
the space into the other. Only a name with a space in it can do that.
-/
namespace Storyline

namespace Quest

variable {q : Quest} {c : Character}

/-- The name of the character is not blank and occurs, in any letter case, in the title of the quest
or in its description. -/
def Names (q : Quest) (c : Character) : Prop :=
  Text.isBlankText c.name = false ∧
    ((Text.lower c.name).toList <:+: (Text.lower q.title).toList ∨
      (Text.lower c.name).toList <:+: (Text.lower q.description).toList)

/-- The name begins at the end of the title and ends at the beginning of the description. -/
def Straddles (q : Quest) (c : Character) : Prop :=
  Text.isBlankText c.name = false ∧
    Text.Bridges (Text.lower c.name).toList (Text.lower q.title).toList
      (Text.lower q.description).toList

instance (q : Quest) (c : Character) : Decidable (q.Names c) :=
  inferInstanceAs (Decidable (_ ∧ (_ ∨ _)))

instance (q : Quest) (c : Character) : Decidable (q.Straddles c) :=
  inferInstanceAs (Decidable (_ ∧ _))

theorem mentions_iff : q.mentions c = true ↔ q.Names c ∨ q.Straddles c := by
  have joined := Text.toList_lower_joined q.title q.description
  rw [mentions, Bool.and_eq_true, Bool.not_eq_true', Text.occursIn_iff, story, joined,
    Text.infix_joined_iff, ← or_assoc, and_or_left]
  rfl

/-- A name that straddles has a space: putting it in lower case makes no new one. -/
theorem Straddles.space_mem (straddles : q.Straddles c) : ' ' ∈ c.name.toList := by
  obtain ⟨_, front, back, name, _, _⟩ := straddles
  have space : ' ' ∈ (Text.lower c.name).toList := by
    rw [name]
    exact List.mem_append_right front List.mem_cons_self
  rw [Text.lower, String.toList_ofList] at space
  exact Text.space_mem_of_lowerChars space

theorem mentions_iff_names (excused : q.Straddles c → q.Names c) :
    q.mentions c = true ↔ q.Names c :=
  mentions_iff.trans ⟨fun found => found.elim (fun named => named) excused, .inl⟩

/-- A quest mentions, in the order of the list, the characters whose name occurs in its title or in
its description, and those whose name straddles the two. It mentions just the former if all that
straddle are among them, as when no name has a space. A faction is credited just if a character of
the one kind or the other belongs to it. -/
theorem mentioned_exactly (q : Quest) (cs : List Character) :
    q.charactersMentioned cs = cs.filter (fun c => q.Names c ∨ q.Straddles c) ∧
    (q.charactersMentioned cs = cs.filter (fun c => q.Names c) ↔
      ∀ c ∈ cs, q.Straddles c → q.Names c) ∧
    (∀ c, q.Straddles c → ' ' ∈ c.name.toList) ∧
    ∀ faction, (q.reputationDeltas cs).contains faction = true ↔
      ∃ c ∈ cs, (q.Names c ∨ q.Straddles c) ∧ c.factionKey = faction := by
  refine ⟨?_, ⟨fun same c member straddles => ?_, fun excused => ?_⟩,
    fun c => Straddles.space_mem, fun faction => ?_⟩
  · refine List.filter_congr fun c _ => ?_
    rw [Bool.eq_iff_iff, mentions_iff, decide_eq_true_eq]
  · have found : c ∈ q.charactersMentioned cs :=
      List.mem_filter.2 ⟨member, mentions_iff.2 (.inr straddles)⟩
    rw [same] at found
    simpa using (List.mem_filter.1 found).2
  · refine List.filter_congr fun c member => ?_
    rw [Bool.eq_iff_iff, mentions_iff_names (excused c member), decide_eq_true_eq]
  · simp only [contains_reputationDeltas_iff, charactersMentioned, List.mem_filter, mentions_iff,
      and_assoc]

/-! A watchman who is called by a part of his name alone, and one whose name falls apart. -/

def vigil : Quest := { id := "q", title := "Meet Old", description := "Brann is watching" }

def watchman : Character := { id := "c1", name := "brann" }

def elder : Character := { id := "c2", name := "Old Brann" }

theorem vigil_names_watchman :
    vigil.charactersMentioned [watchman, guild] = [watchman] ∧ ' ' ∈ elder.name.toList ∧
    (vigil.reputationDeltas [watchman, guild]).contains "Guild" = false := by
  obtain ⟨_, exact_when, spaced, credited⟩ := mentioned_exactly vigil [watchman, guild]
  have none : ¬ ∃ c ∈ [watchman, guild],
      (vigil.Names c ∨ vigil.Straddles c) ∧ c.factionKey = "Guild" := by decide +kernel
  refine ⟨(exact_when.2 (by decide +kernel)).trans ?_, spaced elder (by decide +kernel), ?_⟩
  · have named : vigil.Names watchman := by decide +kernel
    have unnamed : ¬ vigil.Names guild := by decide +kernel
    simp [named, unnamed]
  · rw [← Bool.not_eq_true, credited]
    exact none

/-- The elder is in neither text, but is mentioned and credited. -/
theorem elder_unnamed_credited :
    vigil.charactersMentioned [elder] = [elder] ∧ ¬ vigil.Names elder ∧
    (vigil.reputationDeltas [elder]).get? "Old Brann" = some 5 := by
  have mentioned : vigil.mentions elder = true := by decide +kernel
  refine ⟨?_, by decide +kernel, by decide +kernel⟩
  simp [charactersMentioned, mentioned]

end Quest

end Storyline

import Storyline.Content.Condition
import Storyline.Proofs.Text.Tag

/-!
What an authored condition stands for, and the quest that it points at. The two readings of a
condition look at the same fields in different orders, so they need not agree on the quest.
-/
namespace Storyline

namespace Condition

/-- A type that is the bare word for quests reads as one. The converse fails: white space around
the word is overlooked by the one reading only. -/
theorem ofTag?_of_same {tag : String} (same : Text.sameIgnoringAsciiCase tag "quest" = true) :
    Subject.ofTag? tag = some .quest := by
  have word : Text.lower (Text.trim tag) = "quest" := Text.lower_trim_of_same same (by decide)
  rw [Subject.ofTag?, word]
  rfl

structure ReadsAs (c : AuthoredCondition) (parsed : Condition) : Prop where
  subject : ∃ tag, c.subject = some tag ∧ Subject.ofTag? tag = some parsed.subject
  operator : ∃ tag, c.operator = some tag ∧ Operator.ofTag? tag = some parsed.operator
  agree : parsed.operator.isMembership = true → parsed.subject.supportsMembership = true
  target : parsed.target = (c.target <|> c.quest).getD ""
  value : c.value = some parsed.value

/-- What an authored condition comes to, one case for each way that its reading may end. -/
inductive Yields (c : AuthoredCondition) : Except Fault Condition → Prop where
  | missingType (absent : c.subject = none) : Yields c (.error .missingType)
  | unknownType {tag : String} (present : c.subject = some tag)
      (unknown : Subject.ofTag? tag = none) : Yields c (.error (.unknownType tag))
  | missingOperator {s : Subject}
      (typed : ∃ tag, c.subject = some tag ∧ Subject.ofTag? tag = some s)
      (absent : c.operator = none) : Yields c (.error .missingOperator)
  | unknownOperator {s : Subject} {tag : String}
      (typed : ∃ tag, c.subject = some tag ∧ Subject.ofTag? tag = some s)
      (present : c.operator = some tag) (unknown : Operator.ofTag? tag = none) :
      Yields c (.error (.unknownOperator tag))
  | incompatible {s : Subject} {op : Operator}
      (typed : ∃ tag, c.subject = some tag ∧ Subject.ofTag? tag = some s)
      (signed : ∃ tag, c.operator = some tag ∧ Operator.ofTag? tag = some op)
      (clash : (op.isMembership && !s.supportsMembership) = true) :
      Yields c (.error (.incompatible op s))
  | missingValue {s : Subject} {op : Operator}
      (typed : ∃ tag, c.subject = some tag ∧ Subject.ofTag? tag = some s)
      (signed : ∃ tag, c.operator = some tag ∧ Operator.ofTag? tag = some op)
      (agree : (op.isMembership && !s.supportsMembership) = false)
      (absent : c.value = none) : Yields c (.error .missingValue)
  | condition {parsed : Condition} (reads : ReadsAs c parsed) : Yields c (.ok parsed)

theorem yields_ofAuthored (c : AuthoredCondition) : Yields c (ofAuthored c) := by
  unfold ofAuthored
  cases present : c.subject with
  | none => exact .missingType present
  | some tag =>
    cases known : Subject.ofTag? tag with
    | none =>
      simp only [known]
      exact .unknownType present known
    | some s =>
      have typed : ∃ tag, c.subject = some tag ∧ Subject.ofTag? tag = some s := ⟨tag, present, known⟩
      cases present' : c.operator with
      | none =>
        simp only [known]
        exact .missingOperator typed present'
      | some sign =>
        cases known' : Operator.ofTag? sign with
        | none =>
          simp only [known, known']
          exact .unknownOperator typed present' known'
        | some op =>
          have signed : ∃ tag, c.operator = some tag ∧ Operator.ofTag? tag = some op :=
            ⟨sign, present', known'⟩
          cases clash : op.isMembership && !s.supportsMembership with
          | true =>
            simp only [known, known', clash]
            exact .incompatible typed signed clash
          | false =>
            cases value : c.value with
            | none =>
              simp only [known, known', clash]
              exact .missingValue typed signed clash value
            | some v =>
              simp only [known, known', clash]
              exact .condition ⟨typed, signed, by simpa using clash, rfl, value⟩

theorem Yields.ofAuthored_eq {c : AuthoredCondition} {result : Except Fault Condition}
    (yields : Yields c result) : ofAuthored c = result := by
  unfold ofAuthored
  cases yields with
  | missingType absent =>
    simp only [absent]
    rfl
  | unknownType present unknown =>
    simp only [present, unknown]
    rfl
  | missingOperator typed absent =>
    obtain ⟨tag, present, known⟩ := typed
    simp only [present, known, absent]
    rfl
  | unknownOperator typed present' unknown =>
    obtain ⟨tag, present, known⟩ := typed
    simp only [present, known, present', unknown]
    rfl
  | incompatible typed signed clash =>
    obtain ⟨tag, present, known⟩ := typed
    obtain ⟨sign, present', known'⟩ := signed
    simp only [present, known, present', known', clash]
    rfl
  | missingValue typed signed agree absent =>
    obtain ⟨tag, present, known⟩ := typed
    obtain ⟨sign, present', known'⟩ := signed
    simp only [present, known, present', known', agree, absent]
    rfl
  | @condition parsed reads =>
    obtain ⟨⟨tag, present, known⟩, ⟨sign, present', known'⟩, agree, target, value⟩ := reads
    have fits : (parsed.operator.isMembership && !parsed.subject.supportsMembership) = false := by
      simpa using agree
    simp only [present, known, present', known', fits, value, ← target]
    rfl

theorem readsAs_of_ofAuthored {c : AuthoredCondition} {parsed : Condition}
    (reads : ofAuthored c = .ok parsed) : ReadsAs c parsed := by
  have yields := yields_ofAuthored c
  rw [reads] at yields
  cases yields with
  | condition reads => exact reads

theorem ReadsAs.ofAuthored_eq {c : AuthoredCondition} {parsed : Condition}
    (reads : ReadsAs c parsed) : ofAuthored c = .ok parsed := (Yields.condition reads).ofAuthored_eq

end Condition

namespace AuthoredCondition

/-- The identifier of the quest stands in one field, or in both alike; where it is the target alone,
the type is the bare word for quests. -/
def NamesQuestOnce (c : AuthoredCondition) : Prop :=
  (∃ id, c.quest = some id ∧ (c.target = none ∨ c.target = some id)) ∨
  c.quest = none ∧ c.target ≠ none ∧
    ∃ tag, c.subject = some tag ∧ Text.sameIgnoringAsciiCase tag "quest" = true

end AuthoredCondition

/-- Exactly when the quest that an authored condition points at is the one that the condition asks
for, and exactly when a condition on something else points at none. -/
theorem Condition.referencedQuest?_exact {c : AuthoredCondition} {parsed : Condition}
    (reads : Condition.ofAuthored c = .ok parsed) :
    (parsed.subject = .quest →
      (c.referencedQuest? = some parsed.target ↔ c.NamesQuestOnce)) ∧
    (parsed.subject ≠ .quest → (c.referencedQuest? = none ↔ c.quest = none)) := by
  obtain ⟨⟨tag, typed, subject⟩, _, _, target, _⟩ := readsAs_of_ofAuthored reads
  constructor
  · intro isQuest
    rw [target, AuthoredCondition.NamesQuestOnce, AuthoredCondition.referencedQuest?, typed]
    cases quest : c.quest with
    | some id =>
      cases named : c.target with
      | none => simp
      | some name =>
        have other : some id = some name ↔ some name = some id := eq_comm
        simpa using other
    | none =>
      cases named : c.target with
      | none => simp
      | some name => simp
  · intro other
    have noQuest : ¬ Text.sameIgnoringAsciiCase tag "quest" = true := by
      intro same
      rw [ofTag?_of_same same] at subject
      exact other (Option.some.inj subject).symm
    rw [AuthoredCondition.referencedQuest?, typed]
    cases c.quest with
    | some id => simp
    | none => simp [noQuest]

def AuthoredCondition.flagged : AuthoredCondition :=
  { subject := some "flag", operator := some "eq", target := some "x", quest := some "q1",
    value := some (.bool true) }

theorem Condition.flagged_points : ∃ parsed, ofAuthored .flagged = .ok parsed ∧
    parsed.subject ≠ .quest ∧ AuthoredCondition.flagged.referencedQuest? ≠ none := by
  refine ⟨⟨.flag, .eq, "x", .bool true⟩, rfl, by decide, ?_⟩
  have exact_none := (referencedQuest?_exact (c := .flagged) rfl).2 (by decide)
  intro none
  cases exact_none.1 none

theorem Condition.readings_differ : ¬ ∀ (c : AuthoredCondition) (parsed : Condition),
    ofAuthored c = .ok parsed →
      (parsed.subject = .quest → c.referencedQuest? = some parsed.target) ∧
      (parsed.subject ≠ .quest → c.referencedQuest? = none) := by
  intro agree
  have none := (agree .flagged ⟨.flag, .eq, "x", .bool true⟩ rfl).2 (by decide)
  cases none

end Storyline

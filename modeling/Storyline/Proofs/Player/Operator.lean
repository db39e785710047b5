import Storyline.Player.Condition
import Storyline.Proofs.Content.Condition

/-!
What the operator of a condition has to say. A prerequisite does not look at it, so it may be any.
Read with the plain operator of its subject, which asks for enough or for presence, a condition
holds where the prerequisite does. They part where the value says false: presence is then expected
not to be, while a prerequisite asks for presence all the same, and a flag that was never set counts
as false for the condition alone.
-/
namespace Storyline

def AuthoredCondition.withOperator (c : AuthoredCondition) (tag : String) : AuthoredCondition :=
  { c with operator := some tag }

namespace Condition

def Subject.plainOperator : Subject → Operator
  | .stat | .reputation => .gte
  | .quest | .inventory | .flag => .has

theorem Subject.supportsMembership_of_plainOperator {s : Subject}
    (membership : s.plainOperator.isMembership = true) : s.supportsMembership = true := by
  cases s with
  | stat | reputation => cases membership
  | inventory | flag | quest => rfl

def plain (c : Condition) : Condition := { c with operator := c.subject.plainOperator }

variable {c : AuthoredCondition} {parsed other : Condition} {tag : String}

theorem ReadsAs.plain (reads : ReadsAs c parsed)
    (plainTag : Operator.ofTag? tag = some parsed.subject.plainOperator) :
    ReadsAs (c.withOperator tag) parsed.plain where
  subject := reads.subject
  operator := ⟨tag, rfl, plainTag⟩
  agree := Subject.supportsMembership_of_plainOperator
  target := reads.target
  value := reads.value

theorem ReadsAs.eq_of_withOperator (reads : ReadsAs c parsed)
    (reads' : ReadsAs (c.withOperator tag) other) :
    other = { parsed with operator := other.operator } := by
  obtain ⟨subjectTag, typed, subject⟩ := reads.subject
  obtain ⟨subjectTag', typed', subject'⟩ := reads'.subject
  cases typed.symm.trans typed'
  have sameSubject : other.subject = parsed.subject :=
    Option.some.inj (subject'.symm.trans subject)
  have sameTarget : other.target = parsed.target := reads'.target.trans reads.target.symm
  have sameValue : other.value = parsed.value :=
    Option.some.inj (reads'.value.symm.trans reads.value)
  rw [← sameSubject, ← sameTarget, ← sameValue]

end Condition

namespace Player

/-- Where a prerequisite and the condition with its plain operator come to the same. -/
def ReadsPlainly (p : Player) (c : Condition) : Prop :=
  match c.subject with
  | .stat | .reputation => True
  | .quest | .inventory => c.value.asBool? ≠ some false
  | .flag => p.flags.get? c.target ≠ none ∨ c.value.asBool?.getD true = true

variable (p : Player) {c : Condition}

theorem getD_asBool?_eq_false_iff {v : Condition.Value} :
    v.asBool?.getD true = false ↔ v.asBool? = some false := by
  cases v.asBool? <;> simp

/-- Presence that is expected is presence; a prerequisite on it never expects anything else. -/
theorem present_iff {v : Condition.Value} (present : Bool) :
    (present == v.asBool?.getD true) = present ↔ v.asBool? ≠ some false := by
  rw [Ne, ← getD_asBool?_eq_false_iff]
  cases present <;> cases v.asBool?.getD true <;> decide

/-- A flag has to be set to the expected value; unset it counts as false for a condition alone. -/
theorem flagged_iff (value : Option Bool) (expected : Bool) :
    (value.getD false == expected) = (value == some expected) ↔
      value ≠ none ∨ expected = true := by
  cases value with
  | none => cases expected <;> decide
  | some set => cases set <;> cases expected <;> decide

theorem satisfies_plain_iff (c : Condition) :
    p.satisfies c.plain = p.satisfiesPrerequisite c ↔ p.ReadsPlainly c := by
  unfold satisfies satisfiesPrerequisite ReadsPlainly Condition.plain
  cases subject : c.subject with
  | quest => exact present_iff (p.hasCompleted c.target)
  | inventory => exact present_iff (p.holds c.target)
  | flag => exact flagged_iff (p.flags.get? c.target) (c.value.asBool?.getD true)
  | stat | reputation => simp only [Condition.Subject.plainOperator, Condition.Operator.compare]

theorem satisfiesPrerequisite_operator (c : Condition) (op : Condition.Operator) :
    p.satisfiesPrerequisite { c with operator := op } = p.satisfiesPrerequisite c := by
  unfold satisfiesPrerequisite
  dsimp only

theorem meets_of_ofAuthored {record : AuthoredCondition}
    (reads : Condition.ofAuthored record = .ok c) : p.meets record = p.satisfies c := by
  rw [meets, reads]

theorem meetsPrerequisite_of_ofAuthored {record : AuthoredCondition}
    (reads : Condition.ofAuthored record = .ok c) :
    p.meetsPrerequisite record = p.satisfiesPrerequisite c := by
  rw [meetsPrerequisite, reads]

theorem satisfies_unset (flag : c.subject = .flag) (unset : p.flags.get? c.target = none)
    (expected : c.value.asBool? = some false) :
    p.satisfies c.plain = true ∧ p.satisfiesPrerequisite c = false := by
  constructor
  · simp [satisfies, Condition.plain, flag, Condition.Subject.plainOperator,
      Condition.Operator.compareBool, SortedMap.getD, unset, expected]
  · simp [satisfiesPrerequisite, flag, unset]

/-- A prerequisite holds alike with any operator that the record reads with. With the plain operator
the record reads, and exactly where the value leaves no doubt the condition holds just as the
prerequisite does; an unset flag that is expected to be false meets the condition alone. -/
theorem prerequisite_reads_plainly {record : AuthoredCondition}
    (reads : Condition.ofAuthored record = .ok c) :
    (∀ tag other, Condition.ofAuthored (record.withOperator tag) = .ok other →
      p.meetsPrerequisite (record.withOperator tag) = p.meetsPrerequisite record) ∧
    ∀ tag, Condition.Operator.ofTag? tag = some c.subject.plainOperator →
      Condition.ofAuthored (record.withOperator tag) = .ok c.plain ∧
      (p.meets (record.withOperator tag) = p.meetsPrerequisite record ↔ p.ReadsPlainly c) ∧
      (c.subject = .flag → p.flags.get? c.target = none → c.value.asBool? = some false →
        p.meets (record.withOperator tag) = true ∧ p.meetsPrerequisite record = false) := by
  have known := Condition.readsAs_of_ofAuthored reads
  rw [p.meetsPrerequisite_of_ofAuthored reads]
  constructor
  · intro tag other reads'
    rw [p.meetsPrerequisite_of_ofAuthored reads',
      known.eq_of_withOperator (Condition.readsAs_of_ofAuthored reads'),
      p.satisfiesPrerequisite_operator]
  · intro tag plainTag
    have readsPlain := (known.plain plainTag).ofAuthored_eq
    rw [p.meets_of_ofAuthored readsPlain]
    exact ⟨readsPlain, p.satisfies_plain_iff c, p.satisfies_unset⟩

def bridgeStands : AuthoredCondition := .of " Flag" "ne" "bridge_down" (.text "FALSE ")

theorem bridgeStands_read_twice :
    ({} : Player).meetsPrerequisite (bridgeStands.withOperator "==") = false ∧
    ({} : Player).meets (bridgeStands.withOperator " Has ") = true := by
  have reads : Condition.ofAuthored bridgeStands =
      .ok ⟨.flag, .ne, "bridge_down", .text "FALSE "⟩ := rfl
  obtain ⟨anyOperator, plainOperator⟩ := prerequisite_reads_plainly {} reads
  obtain ⟨_, _, apart⟩ := plainOperator " Has " rfl
  obtain ⟨holds, fails⟩ := apart rfl rfl rfl
  exact ⟨(anyOperator "==" _ rfl).trans fails, holds⟩

end Player

end Storyline

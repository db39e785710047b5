import Storyline.Proofs.Content.Condition

/-!
The grammar of conditions. An authored condition stands for a condition just where it says one in
the words of the grammar, and otherwise the first thing that it lacks is reported. The main statement
gives both, and that the words may be replaced by the names of what they stand for.
-/
namespace Storyline

namespace Condition

def Subject.words : Subject → List String
  | stat => ["stat"]
  | inventory => ["inventory", "item"]
  | flag => ["flag"]
  | quest => ["quest"]
  | reputation => ["reputation"]

def Operator.words : Operator → List String
  | eq => ["eq", "==", "="]
  | gt => ["gt", ">"]
  | lt => ["lt", "<"]
  | gte => ["gte", ">="]
  | lte => ["lte", "<="]
  | ne => ["ne", "!="]
  | has => ["has"]
  | notHas => ["not_has", "nothas", "not-has"]

theorem Subject.name_mem_words (s : Subject) : s.name ∈ s.words := by
  cases s <;> exact List.mem_cons_self

theorem Operator.name_mem_words (op : Operator) : op.name ∈ op.words := by
  cases op <;> exact List.mem_cons_self

theorem Subject.plain_words (s : Subject) : ∀ word ∈ s.words, Text.IsPlain word := by
  cases s <;> decide

theorem Operator.plain_words (op : Operator) : ∀ word ∈ op.words, Text.IsPlain word := by
  cases op <;> decide

theorem Subject.ofTag?_eq_some_iff {s : Subject} {tag : String} :
    ofTag? tag = some s ↔ Text.SpellsOneOf s.words tag := by
  rw [Text.spellsOneOf_iff s.plain_words]
  constructor
  · intro named
    unfold ofTag? at named
    split at named <;> cases named <;> simp [words, *]
  · intro here
    unfold ofTag?
    generalize Text.lower (Text.trim tag) = word at here
    cases s <;> simp only [words, List.mem_cons, List.not_mem_nil, or_false] at here
    case inventory => rcases here with rfl | rfl <;> rfl
    all_goals
      subst here
      rfl

theorem Operator.ofTag?_eq_some_iff {op : Operator} {tag : String} :
    ofTag? tag = some op ↔ Text.SpellsOneOf op.words tag := by
  rw [Text.spellsOneOf_iff op.plain_words]
  constructor
  · intro named
    unfold ofTag? at named
    split at named <;> cases named <;> simp [words, *]
  · intro here
    unfold ofTag?
    generalize Text.lower (Text.trim tag) = word at here
    cases op <;> simp only [words, List.mem_cons, List.not_mem_nil, or_false] at here
    case eq | notHas => rcases here with rfl | rfl | rfl <;> rfl
    case has =>
      subst here
      rfl
    all_goals rcases here with rfl | rfl <;> rfl

theorem Subject.ofTag?_eq_none_iff {tag : String} :
    ofTag? tag = none ↔ ∀ s : Subject, ¬ Text.SpellsOneOf s.words tag := by
  simp only [Option.eq_none_iff_forall_ne_some, Ne, ofTag?_eq_some_iff]

theorem Operator.ofTag?_eq_none_iff {tag : String} :
    ofTag? tag = none ↔ ∀ op : Operator, ¬ Text.SpellsOneOf op.words tag := by
  simp only [Option.eq_none_iff_forall_ne_some, Ne, ofTag?_eq_some_iff]

def Operator.Fits (op : Operator) (s : Subject) : Prop :=
  op = .has ∨ op = .notHas → s = .inventory ∨ s = .flag ∨ s = .quest

theorem Operator.fits_iff {op : Operator} {s : Subject} :
    op.Fits s ↔ (op.isMembership && !s.supportsMembership) = false := by
  unfold Fits
  cases op <;> cases s <;> decide

end Condition

namespace AuthoredCondition

open Condition (Subject Operator Fault)

def HasSubject (c : AuthoredCondition) (s : Subject) : Prop :=
  ∃ tag, c.subject = some tag ∧ Text.SpellsOneOf s.words tag

def HasOperator (c : AuthoredCondition) (op : Operator) : Prop :=
  ∃ tag, c.operator = some tag ∧ Text.SpellsOneOf op.words tag

/-- What the authored condition says, in the words of the grammar. -/
structure States (c : AuthoredCondition) (parsed : Condition) : Prop where
  subject : c.HasSubject parsed.subject
  operator : c.HasOperator parsed.operator
  fits : parsed.operator.Fits parsed.subject
  value : c.value = some parsed.value
  target : c.target = some parsed.target ∨
    c.target = none ∧ (c.quest = some parsed.target ∨ c.quest = none ∧ parsed.target = "")

/-- The first thing that is wrong with the authored condition. What comes before it is in order. -/
inductive Lacks (c : AuthoredCondition) : Fault → Prop where
  | type (absent : c.subject = none) : Lacks c .missingType
  | typeWord {tag : String} (present : c.subject = some tag)
      (unknown : ∀ s : Subject, ¬ Text.SpellsOneOf s.words tag) : Lacks c (.unknownType tag)
  | operator {s : Subject} (typed : c.HasSubject s) (absent : c.operator = none) :
      Lacks c .missingOperator
  | operatorWord {s : Subject} {tag : String} (typed : c.HasSubject s)
      (present : c.operator = some tag)
      (unknown : ∀ op : Operator, ¬ Text.SpellsOneOf op.words tag) : Lacks c (.unknownOperator tag)
  | agreement {s : Subject} {op : Operator} (typed : c.HasSubject s) (signed : c.HasOperator op)
      (clash : ¬ op.Fits s) : Lacks c (.incompatible op s)
  | value {s : Subject} {op : Operator} (typed : c.HasSubject s) (signed : c.HasOperator op)
      (fits : op.Fits s) (absent : c.value = none) : Lacks c .missingValue

variable {c : AuthoredCondition} {parsed : Condition} {fault : Fault}

theorem hasSubject_iff {s : Subject} :
    c.HasSubject s ↔ ∃ tag, c.subject = some tag ∧ Subject.ofTag? tag = some s := by
  simp only [HasSubject, Subject.ofTag?_eq_some_iff]

theorem hasOperator_iff {op : Operator} :
    c.HasOperator op ↔ ∃ tag, c.operator = some tag ∧ Operator.ofTag? tag = some op := by
  simp only [HasOperator, Operator.ofTag?_eq_some_iff]

theorem target_eq_iff {target : String} : target = (c.target <|> c.quest).getD "" ↔
    c.target = some target ∨
      c.target = none ∧ (c.quest = some target ∨ c.quest = none ∧ target = "") := by
  cases c.target with
  | some name => simp [eq_comm]
  | none => cases c.quest <;> simp [eq_comm]

theorem states_iff : c.States parsed ↔ Condition.ReadsAs c parsed := by
  have agree : parsed.operator.Fits parsed.subject ↔
      (parsed.operator.isMembership = true → parsed.subject.supportsMembership = true) := by
    rw [Operator.fits_iff]
    simp
  constructor
  · rintro ⟨subject, operator, fits, value, target⟩
    exact ⟨hasSubject_iff.1 subject, hasOperator_iff.1 operator, agree.1 fits,
      target_eq_iff.2 target, value⟩
  · rintro ⟨subject, operator, fits, target, value⟩
    exact ⟨hasSubject_iff.2 subject, hasOperator_iff.2 operator, agree.2 fits, value,
      target_eq_iff.1 target⟩

theorem ofAuthored_eq_ok_iff : Condition.ofAuthored c = .ok parsed ↔ c.States parsed :=
  ⟨fun reads => states_iff.2 (Condition.readsAs_of_ofAuthored reads),
    fun stated => (states_iff.1 stated).ofAuthored_eq⟩

theorem ofAuthored_eq_error_iff : Condition.ofAuthored c = .error fault ↔ c.Lacks fault := by
  constructor
  · intro fails
    have yields := Condition.yields_ofAuthored c
    rw [fails] at yields
    cases yields with
    | missingType absent => exact .type absent
    | unknownType present unknown =>
      exact .typeWord present (Subject.ofTag?_eq_none_iff.1 unknown)
    | missingOperator typed absent => exact .operator (hasSubject_iff.2 typed) absent
    | unknownOperator typed present unknown =>
      exact .operatorWord (hasSubject_iff.2 typed) present
        (Operator.ofTag?_eq_none_iff.1 unknown)
    | incompatible typed signed clash =>
      exact .agreement (hasSubject_iff.2 typed) (hasOperator_iff.2 signed)
        (by rw [Operator.fits_iff, clash]; simp)
    | missingValue typed signed agree absent =>
      exact .value (hasSubject_iff.2 typed) (hasOperator_iff.2 signed)
        (Operator.fits_iff.2 agree) absent
  · intro lacks
    apply Condition.Yields.ofAuthored_eq
    cases lacks with
    | type absent => exact .missingType absent
    | typeWord present unknown =>
      exact .unknownType present (Subject.ofTag?_eq_none_iff.2 unknown)
    | operator typed absent => exact .missingOperator (hasSubject_iff.1 typed) absent
    | operatorWord typed present unknown =>
      exact .unknownOperator (hasSubject_iff.1 typed) present
        (Operator.ofTag?_eq_none_iff.2 unknown)
    | agreement typed signed clash =>
      rw [Operator.fits_iff, Bool.not_eq_false] at clash
      exact .incompatible (hasSubject_iff.1 typed) (hasOperator_iff.1 signed) clash
    | value typed signed fits absent =>
      exact .missingValue (hasSubject_iff.1 typed) (hasOperator_iff.1 signed)
        (Operator.fits_iff.1 fits) absent

def reworded (c : AuthoredCondition) (subjectTag operatorTag : String) : AuthoredCondition :=
  { c with subject := some subjectTag, operator := some operatorTag }

theorem States.reworded (stated : c.States parsed) {subjectTag operatorTag : String}
    (subject : Text.Respells subjectTag parsed.subject.name)
    (operator : Text.Respells operatorTag parsed.operator.name) :
    (c.reworded subjectTag operatorTag).States parsed where
  subject := ⟨subjectTag, rfl, _, parsed.subject.name_mem_words,
    subject.spells (parsed.subject.plain_words _ parsed.subject.name_mem_words)⟩
  operator := ⟨operatorTag, rfl, _, parsed.operator.name_mem_words,
    operator.spells (parsed.operator.plain_words _ parsed.operator.name_mem_words)⟩
  fits := stated.fits
  value := stated.value
  target := stated.target

theorem exists_states_iff : (∃ parsed, c.States parsed) ↔
    (∃ s op, c.HasSubject s ∧ c.HasOperator op ∧ op.Fits s) ∧ ∃ v, c.value = some v := by
  constructor
  · rintro ⟨parsed, stated⟩
    exact ⟨⟨_, _, stated.subject, stated.operator, stated.fits⟩, _, stated.value⟩
  · rintro ⟨⟨s, op, typed, signed, fits⟩, v, value⟩
    exact ⟨⟨s, op, (c.target <|> c.quest).getD "", v⟩, typed, signed, fits, value,
      target_eq_iff.1 rfl⟩

end AuthoredCondition

/-- An authored condition stands for what it says in the words of the grammar, and for nothing if it
says nothing; then the first thing that it lacks is reported, in the order type, word for the type,
operator, word for the operator, their agreement, value. The words may be replaced by the names of
the subject and the operator, in any case of the letters and with any white space around them. -/
theorem Condition.ofAuthored_exact (c : AuthoredCondition) :
    ((∃ parsed, ofAuthored c = .ok parsed) ↔
      (∃ s op, c.HasSubject s ∧ c.HasOperator op ∧ op.Fits s) ∧ ∃ v, c.value = some v) ∧
    (∀ parsed, ofAuthored c = .ok parsed ↔ c.States parsed) ∧
    (∀ fault, ofAuthored c = .error fault ↔ c.Lacks fault) ∧
    ∀ parsed, ofAuthored c = .ok parsed → ∀ subjectTag operatorTag,
      Text.Respells subjectTag parsed.subject.name →
      Text.Respells operatorTag parsed.operator.name →
      ofAuthored (c.reworded subjectTag operatorTag) = .ok parsed := by
  refine ⟨?_, fun _ => AuthoredCondition.ofAuthored_eq_ok_iff,
    fun _ => AuthoredCondition.ofAuthored_eq_error_iff, ?_⟩
  · simp only [AuthoredCondition.ofAuthored_eq_ok_iff, AuthoredCondition.exists_states_iff]
  · intro parsed reads subjectTag operatorTag subject operator
    have stated := AuthoredCondition.ofAuthored_eq_ok_iff.1 reads
    exact AuthoredCondition.ofAuthored_eq_ok_iff.2 (stated.reworded subject operator)

def AuthoredCondition.unlit : AuthoredCondition :=
  { subject := some "\t ITEM\u2003", operator := some "Not-Has ", quest := some "lamp",
    value := some (.bool true) }

def Condition.lampless : Condition := ⟨.inventory, .notHas, "lamp", .bool true⟩

theorem Condition.unlit_reads : ofAuthored .unlit = .ok lampless ∧
    Text.Respells "\u2003Inventory" lampless.subject.name ∧
    Text.Respells "NOT_has " lampless.operator.name ∧
    ofAuthored (AuthoredCondition.unlit.reworded "\u2003Inventory" "NOT_has ") = .ok lampless := by
  have reads : ofAuthored .unlit = .ok lampless := rfl
  have subject : Text.Respells "\u2003Inventory" lampless.subject.name :=
    ⟨"Inventory", ⟨[Char.ofNat 0x2003], [], rfl, List.forall_mem_singleton.2 (by decide),
      List.forall_mem_nil _⟩, by decide⟩
  have operator : Text.Respells "NOT_has " lampless.operator.name :=
    ⟨"NOT_has", ⟨[], [' '], rfl, List.forall_mem_nil _, List.forall_mem_singleton.2 (by decide)⟩,
      by decide⟩
  obtain ⟨_, _, _, names⟩ := ofAuthored_exact .unlit
  exact ⟨reads, subject, operator, names _ reads _ _ subject operator⟩

end Storyline

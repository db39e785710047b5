import Storyline.Proofs.Text.Tag
import Storyline.Proofs.Validation.Severity
import Storyline.Validation.Structure

/-!
The checks that look at one record. They raise no error just when the record is what it should be;
the sum of the probabilities of a quest raises one warning at most, and nothing else a warning.
-/
namespace Storyline.Validation

def IsProper (c : AuthoredCondition) : Prop := ∃ parsed, Condition.ofAuthored c = .ok parsed

def IsWritten (s : String) : Prop := ∃ c ∈ s.toList, Text.isBlank c = false

structure WellMade (q : Quest) : Prop where
  title : IsWritten q.title
  description : IsWritten q.description
  outcomes : q.outcomes ≠ []
  each : ∀ o ∈ q.outcomes, IsWritten o.description ∧ 0.0 ≤ o.probability ∧ o.probability ≤ 100.0

/-- A quest with outcomes whose probabilities, added up in order, miss 100 by more than the
tolerance. -/
def deviates (policy : ValidationPolicy) (q : Quest) : Bool :=
  let sum := (q.outcomes.map Outcome.probability).foldl (· + ·) (-0.0)
  !q.outcomes.isEmpty && decide (policy.tolerance < (sum - 100.0).abs)

theorem isBlankText_eq_false_iff {s : String} : Text.isBlankText s = false ↔ IsWritten s := by
  rw [← Bool.not_eq_true, Text.isBlankText_iff]
  simp [IsWritten]

instance : DecidablePred IsWritten := fun _ => decidable_of_iff _ isBlankText_eq_false_iff

theorem wellMade_iff {q : Quest} : WellMade q ↔
    IsWritten q.title ∧ IsWritten q.description ∧ q.outcomes ≠ [] ∧
    ∀ o ∈ q.outcomes, IsWritten o.description ∧ 0.0 ≤ o.probability ∧ o.probability ≤ 100.0 :=
  ⟨fun h => ⟨h.title, h.description, h.outcomes, h.each⟩,
    fun ⟨title, description, outcomes, each⟩ => ⟨title, description, outcomes, each⟩⟩

instance : DecidablePred WellMade := fun _ => decidable_of_iff' _ wellMade_iff

theorem forall_mem_zipIdx_iff {α : Type} {P : α → Prop} (l : List α) (n : Nat) :
    (∀ e ∈ l.zipIdx n, P e.1) ↔ ∀ a ∈ l, P a := by
  induction l generalizing n with
  | nil => simp
  | cons a l ih => rw [List.zipIdx_cons, List.forall_mem_cons, List.forall_mem_cons, ih]

/-! Conditions. -/

theorem conditionIssue?_eq_none_iff {owner : RecordId} {place : String} {c : AuthoredCondition} :
    conditionIssue? owner place c = none ↔ IsProper c := by
  rw [conditionIssue?, IsProper]
  cases Condition.ofAuthored c with
  | ok parsed => simp
  | error fault => simp

instance : DecidablePred IsProper := fun _ =>
  decidable_of_iff _ (@conditionIssue?_eq_none_iff "" "" _)

theorem conditionListIssues_eq_nil_iff {owner : RecordId} {place : String}
    {cs : List AuthoredCondition} :
    conditionListIssues owner place cs = [] ↔ ∀ c ∈ cs, IsProper c := by
  rw [conditionListIssues, List.filterMap_eq_nil_iff, ← forall_mem_zipIdx_iff cs 1]
  exact forall₂_congr fun _ _ => conditionIssue?_eq_none_iff

theorem fields_of_mem_conditionListIssues {owner : RecordId} {place : String}
    {cs : List AuthoredCondition} {i : Issue} (hi : i ∈ conditionListIssues owner place cs) :
    i.kind = .invalidCondition ∧ i.severity = .error ∧ i.node = some owner ∧ i.edge = none := by
  obtain ⟨⟨c, n⟩, _, raised⟩ := List.mem_filterMap.1 hi
  change conditionIssue? owner (place ++ toString n) c = some i at raised
  rw [conditionIssue?] at raised
  cases parsed : Condition.ofAuthored c with
  | ok _ => simp [parsed] at raised
  | error fault =>
    rw [parsed] at raised
    cases raised
    exact ⟨rfl, rfl, rfl, rfl⟩

theorem allOf_conditionListIssues (owner : RecordId) (place : String)
    (cs : List AuthoredCondition) :
    AllOf .invalidCondition .error (conditionListIssues owner place cs) := by
  intro i hi
  obtain ⟨kind, severity, _⟩ := fields_of_mem_conditionListIssues hi
  exact ⟨kind, severity⟩

theorem allOf_entryConditionIssues (e : Entry) :
    AllOf .invalidCondition .error (entryConditionIssues e) := by
  cases e with
  | storyArc a => exact fun _ hi => absurd hi List.not_mem_nil
  | quest q =>
    exact (allOf_conditionListIssues _ _ _).append
      (.flatMap fun _ => allOf_conditionListIssues _ _ _)
  | dialogue d => exact allOf_conditionListIssues _ _ _

theorem questConditionIssues_eq_nil_iff {q : Quest} : questConditionIssues q = [] ↔
    (∀ c ∈ q.prerequisites, IsProper c) ∧ ∀ o ∈ q.outcomes, ∀ c ∈ o.conditions, IsProper c := by
  rw [questConditionIssues, List.append_eq_nil_iff, conditionListIssues_eq_nil_iff,
    List.flatMap_eq_nil_iff, ← forall_mem_zipIdx_iff q.outcomes 1]
  exact and_congr Iff.rfl (forall₂_congr fun _ _ => conditionListIssues_eq_nil_iff)

def conditionsOf : Entry → List AuthoredCondition
  | .storyArc _ => []
  | .quest q => q.prerequisites ++ q.outcomes.flatMap (·.conditions)
  | .dialogue d => d.conditions

theorem noErrors_entryConditionIssues_iff {e : Entry} :
    NoErrors (entryConditionIssues e) ↔ ∀ c ∈ conditionsOf e, IsProper c := by
  rw [(allOf_entryConditionIssues e).noErrors_iff]
  cases e with
  | storyArc a => simp [entryConditionIssues, conditionsOf]
  | quest q =>
    simp only [entryConditionIssues, questConditionIssues_eq_nil_iff, conditionsOf,
      List.forall_mem_append, List.mem_flatMap]
    exact and_congr Iff.rfl
      ⟨fun h c ⟨o, ho, hc⟩ => h o ho c hc, fun h o ho c hc => h c ⟨o, ho, hc⟩⟩
  | dialogue d => simp [entryConditionIssues, dialogueConditionIssues, conditionsOf,
      conditionListIssues_eq_nil_iff]

/-! Structure. -/

section BlankTexts

variable (q : Quest) (text message : String) (suggestions : List String)

theorem allOf_structureError : AllOf .invalidStructure .error
    [structureError q message suggestions] := by
  intro i hi
  cases List.mem_singleton.1 hi
  exact ⟨rfl, rfl⟩

theorem allOf_blankError : AllOf .invalidStructure .error
    (if Text.isBlankText text then [structureError q message suggestions] else []) := by
  split
  · exact allOf_structureError q message suggestions
  · exact fun _ hi => absurd hi List.not_mem_nil

theorem blankError_eq_nil_iff :
    (if Text.isBlankText text then [structureError q message suggestions] else []) = [] ↔
      IsWritten text := by
  rw [← isBlankText_eq_false_iff]
  by_cases blank : Text.isBlankText text <;> simp [blank]

end BlankTexts

theorem allOf_outcomeIssues (q : Quest) (o : Outcome) (n : Nat) :
    AllOf .invalidStructure .error (outcomeIssues q o n) := by
  apply AllOf.append
  · exact allOf_blankError q o.description _ _
  · split
    · exact fun _ hi => absurd hi List.not_mem_nil
    · exact allOf_structureError q _ _

theorem outcomeIssues_eq_nil_iff {q : Quest} {o : Outcome} {n : Nat} : outcomeIssues q o n = [] ↔
    IsWritten o.description ∧ 0.0 ≤ o.probability ∧ o.probability ≤ 100.0 := by
  have percentage : isPercentage o.probability = true ↔
      0.0 ≤ o.probability ∧ o.probability ≤ 100.0 := by
    simp [isPercentage]
  rw [outcomeIssues, List.append_eq_nil_iff, blankError_eq_nil_iff, ← percentage]
  by_cases fits : isPercentage o.probability <;> simp [fits]

theorem allOf_sumIssues (policy : ValidationPolicy) (q : Quest) :
    AllOf .invalidStructure .warning (sumIssues policy q) := by
  intro i hi
  rw [sumIssues] at hi
  split at hi
  · cases List.mem_singleton.1 hi
    exact ⟨rfl, rfl⟩
  · cases hi

theorem probabilitySum_eq (outcomes : List Outcome) :
    probabilitySum outcomes = (outcomes.map Outcome.probability).foldl (· + ·) (-0.0) :=
  List.foldl_map.symm

theorem deviates_eq (policy : ValidationPolicy) (q : Quest) : deviates policy q =
    (!q.outcomes.isEmpty && sumDeviates policy (probabilitySum q.outcomes)) := by
  rw [probabilitySum_eq]
  rfl

theorem allOf_outcomes (q : Quest) : AllOf .invalidStructure .error
    ((q.outcomes.zipIdx 1).flatMap fun (o, n) => outcomeIssues q o n) :=
  .flatMap fun e => allOf_outcomeIssues q e.1 e.2

theorem mem_structureIssues_cases {policy : ValidationPolicy} {q : Quest} {i : Issue}
    (hi : i ∈ structureIssues policy q) :
    (∃ message suggestions, i = structureError q message suggestions) ∨ i ∈ sumIssues policy q := by
  have blank {text message : String} {suggestions : List String}
      (hi : i ∈ if Text.isBlankText text then [structureError q message suggestions] else []) :
      i = structureError q message suggestions := by
    split at hi
    · exact List.mem_singleton.1 hi
    · cases hi
  rcases List.mem_append.1 hi with hi | hi
  · left
    rcases List.mem_append.1 hi with hi | hi
    · exact ⟨_, _, blank hi⟩
    · exact ⟨_, _, blank hi⟩
  · split at hi
    · exact .inl ⟨_, _, List.mem_singleton.1 hi⟩
    · rcases List.mem_append.1 hi with hi | hi
      · left
        obtain ⟨⟨o, n⟩, _, hi⟩ := List.mem_flatMap.1 hi
        rcases List.mem_append.1 hi with hi | hi
        · exact ⟨_, _, blank hi⟩
        · split at hi
          · cases hi
          · exact ⟨_, _, List.mem_singleton.1 hi⟩
      · exact .inr hi

theorem kind_of_mem_structureIssues {policy : ValidationPolicy} {q : Quest} {i : Issue}
    (hi : i ∈ structureIssues policy q) : i.kind = .invalidStructure := by
  rcases mem_structureIssues_cases hi with ⟨_, _, rfl⟩ | hi
  · rfl
  · exact (allOf_sumIssues policy q i hi).1

theorem noErrors_structureIssues_iff {policy : ValidationPolicy} {q : Quest} :
    NoErrors (structureIssues policy q) ↔ WellMade q := by
  have title : NoErrors (titleIssues q) ↔ IsWritten q.title :=
    (allOf_blankError q q.title _ _).noErrors_iff.trans (blankError_eq_nil_iff ..)
  have description : NoErrors (descriptionIssues q) ↔ IsWritten q.description :=
    (allOf_blankError q q.description _ _).noErrors_iff.trans (blankError_eq_nil_iff ..)
  have each : NoErrors ((q.outcomes.zipIdx 1).flatMap fun (o, n) => outcomeIssues q o n) ↔
      ∀ o ∈ q.outcomes, IsWritten o.description ∧ 0.0 ≤ o.probability ∧ o.probability ≤ 100.0 := by
    rw [(allOf_outcomes q).noErrors_iff, List.flatMap_eq_nil_iff,
      ← forall_mem_zipIdx_iff q.outcomes 1]
    exact forall₂_congr fun _ _ => outcomeIssues_eq_nil_iff
  rw [structureIssues, noErrors_append, noErrors_append, title, description]
  by_cases none : q.outcomes = []
  · rw [if_pos (by simpa using none), (allOf_structureError q _ _).noErrors_iff]
    constructor
    · intro h
      cases h.2
    · intro h
      exact absurd none h.outcomes
  · rw [if_neg (by simpa using none), noErrors_append, each]
    constructor
    · rintro ⟨⟨t, d⟩, o, _⟩
      exact ⟨t, d, none, o⟩
    · intro h
      exact ⟨⟨h.title, h.description⟩, h.each, (allOf_sumIssues policy q).noErrors⟩

theorem warnings_structureIssues (policy : ValidationPolicy) (q : Quest) :
    (structureIssues policy q).filter (fun i => !i.isError) =
      if deviates policy q then sumIssues policy q else [] := by
  have title : (titleIssues q).filter (fun i => !i.isError) = [] :=
    (allOf_blankError q q.title _ _).warnings_eq_nil
  have description : (descriptionIssues q).filter (fun i => !i.isError) = [] :=
    (allOf_blankError q q.description _ _).warnings_eq_nil
  rw [structureIssues, List.filter_append, List.filter_append, title, description]
  by_cases none : q.outcomes = []
  · rw [if_pos (by simpa using none), (allOf_structureError q _ _).warnings_eq_nil]
    simp [none, deviates]
  · rw [if_neg (by simpa using none), List.filter_append, (allOf_outcomes q).warnings_eq_nil,
      (allOf_sumIssues policy q).warnings_eq_self]
    by_cases off : sumDeviates policy (probabilitySum q.outcomes)
    · simp [deviates_eq, none, off]
    · simp [deviates_eq, sumIssues, off]

theorem exists_sumIssues_eq {policy : ValidationPolicy} {q : Quest} (off : deviates policy q = true) :
    ∃ i, sumIssues policy q = [i] := by
  rw [deviates_eq, Bool.and_eq_true] at off
  exact ⟨_, if_pos off.2⟩

theorem countWarnings_structureIssues (policy : ValidationPolicy) (q : Quest) :
    countWarnings (structureIssues policy q) = if deviates policy q then 1 else 0 := by
  rw [countWarnings, List.countP_eq_length_filter, warnings_structureIssues]
  split
  · rename_i off
    obtain ⟨i, one⟩ := exists_sumIssues_eq off
    rw [one, List.length_singleton]
  · rfl

end Storyline.Validation

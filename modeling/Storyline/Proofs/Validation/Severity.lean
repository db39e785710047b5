import Mathlib.Data.List.Basic
import Storyline.Validation.Report

/-! Lists of issues by kind and severity, and what severity makes of a report. -/
namespace Storyline.Validation

def NoErrors (issues : List Issue) : Prop := ∀ i ∈ issues, i.isError = false

def AllOf (kind : IssueKind) (severity : Severity) (issues : List Issue) : Prop :=
  ∀ i ∈ issues, i.kind = kind ∧ i.severity = severity

def countWarnings (issues : List Issue) : Nat := issues.countP fun i => !i.isError

@[simp] theorem noErrors_append {a b : List Issue} :
    NoErrors (a ++ b) ↔ NoErrors a ∧ NoErrors b := List.forall_mem_append

@[simp] theorem noErrors_flatMap {α : Type} {l : List α} {f : α → List Issue} :
    NoErrors (l.flatMap f) ↔ ∀ a ∈ l, NoErrors (f a) := by
  simp only [NoErrors, List.mem_flatMap]
  exact ⟨fun h a ha i hi => h i ⟨a, ha, hi⟩, fun h i ⟨a, ha, hi⟩ => h a ha i hi⟩

@[simp] theorem countWarnings_append (a b : List Issue) :
    countWarnings (a ++ b) = countWarnings a + countWarnings b := List.countP_append

theorem NoErrors.countWarnings_eq {issues : List Issue} (h : NoErrors issues) :
    countWarnings issues = issues.length :=
  List.countP_eq_length.2 fun i hi => by simp [h i hi]

/-- Where each part has one warning or none, the warnings count the parts that have one. -/
theorem countWarnings_flatMap {α : Type} {f : α → List Issue} {test : α → Bool}
    (each : ∀ a, countWarnings (f a) = if test a then 1 else 0) (l : List α) :
    countWarnings (l.flatMap f) = l.countP test := by
  induction l with
  | nil => rfl
  | cons a l ih =>
    rw [List.flatMap_cons, countWarnings_append, each, ih, List.countP_cons, Nat.add_comm]

namespace AllOf

variable {kind : IssueKind} {severity : Severity} {issues : List Issue}

theorem flatMap {α : Type} {l : List α} {f : α → List Issue}
    (h : ∀ a, AllOf kind severity (f a)) : AllOf kind severity (l.flatMap f) := by
  intro i hi
  obtain ⟨a, _, ha⟩ := List.mem_flatMap.1 hi
  exact h a i ha

theorem append {a b : List Issue} (ha : AllOf kind severity a) (hb : AllOf kind severity b) :
    AllOf kind severity (a ++ b) := List.forall_mem_append.2 ⟨ha, hb⟩

theorem noErrors (h : AllOf kind .warning issues) : NoErrors issues := by
  intro i hi
  simp [Issue.isError, (h i hi).2]

theorem noErrors_iff (h : AllOf kind .error issues) : NoErrors issues ↔ issues = [] := by
  constructor
  · intro none
    apply List.eq_nil_iff_forall_not_mem.2
    intro i hi
    have := none i hi
    simp [Issue.isError, (h i hi).2] at this
  · rintro rfl
    exact fun _ hi => absurd hi List.not_mem_nil

theorem warnings_eq_nil (h : AllOf kind .error issues) : issues.filter (fun i => !i.isError) = [] :=
  List.filter_eq_nil_iff.2 fun i hi => by simp [Issue.isError, (h i hi).2]

theorem warnings_eq_self (h : AllOf kind .warning issues) :
    issues.filter (fun i => !i.isError) = issues :=
  List.filter_eq_self.2 fun i hi => by simp [Issue.isError, (h i hi).2]

theorem countWarnings_eq (h : AllOf kind .error issues) : countWarnings issues = 0 := by
  rw [countWarnings, List.countP_eq_length_filter, h.warnings_eq_nil, List.length_nil]

end AllOf

theorem errors_ofIssues (issues : List Issue) (s : ValidationSummary) (p : ValidationPolicy) :
    (ValidationReport.ofIssues issues s p).errors = issues.filter Issue.isError := rfl

theorem warnings_ofIssues (issues : List Issue) (s : ValidationSummary) (p : ValidationPolicy) :
    (ValidationReport.ofIssues issues s p).warnings = issues.filter fun i => !i.isError := rfl

theorem perm_issuesOf_ofIssues (issues : List Issue) (s : ValidationSummary) (p : ValidationPolicy)
    (kind : IssueKind) : ((ValidationReport.ofIssues issues s p).issuesOf kind).Perm
      (issues.filter (·.kind = kind)) :=
  (List.filter_append_perm Issue.isError issues).filter _

theorem isValid_ofIssues_iff (issues : List Issue) (s : ValidationSummary) (p : ValidationPolicy) :
    (ValidationReport.ofIssues issues s p).isValid = true ↔ NoErrors issues := by
  simp [ValidationReport.ofIssues, NoErrors]

theorem exportReady_ofIssues_iff (issues : List Issue) (s : ValidationSummary)
    (p : ValidationPolicy) : (ValidationReport.ofIssues issues s p).exportReady = true ↔
      NoErrors issues ∧ countWarnings issues < p.maxWarnings := by
  simp [ValidationReport.ofIssues, NoErrors, countWarnings, List.countP_eq_length_filter]

end Storyline.Validation

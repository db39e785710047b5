import Mathlib.Algebra.Ring.Int.Defs
import Storyline.Insight.Comparison
import Storyline.Proofs.Number.Classes

/-!
What a comparison makes of the transcripts it is given. Its counts and its sums of standing are sums
over the transcripts one by one, so those of a whole come from those of its parts, in any order. An
average is the quotient of a total by a count that is not zero, or zero where the count is. Sums are
taken as whole numbers; in words they are the same as long as they stay in range.
-/
namespace Storyline

theorem SortedMap.map_snd_filter_entries {κ ν : Type} [Ord κ] [Std.LawfulEqOrd κ] [DecidableEq κ]
    (m : SortedMap κ ν) (k : κ) :
    (m.entries.filter (·.1 = k)).map (·.2) = (m.get? k).toList := by
  have distinct := m.keys_nodup
  unfold keys at distinct
  unfold get?
  generalize m.entries = entries at distinct ⊢
  induction entries with
  | nil => rfl
  | cons e rest ih =>
    obtain ⟨new, distinct⟩ := List.nodup_cons.1 distinct
    rw [find?]
    by_cases here : k = e.1
    · have none : rest.filter (·.1 = k) = [] := by
        apply List.filter_eq_nil_iff.2
        intro f hf same
        exact new (List.mem_map.2 ⟨f, hf, (of_decide_eq_true same).trans here⟩)
      simp [here, ← none]
    · have other : compare k e.1 ≠ .eq := fun eq => here (Std.LawfulEqCmp.eq_of_compare eq)
      have later : e.1 ≠ k := Ne.symm here
      simpa [other, later] using ih distinct

theorem PlayStyle.mem_all (s : PlayStyle) : s ∈ all := by cases s <;> decide

namespace FactionShift

instance : Add FactionShift := ⟨fun a b => ⟨a.sum + b.sum, a.count + b.count⟩⟩

def after (former : Option FactionShift) (changes : List Int) : Option FactionShift :=
  if changes = [] then former
  else some ⟨(former.getD {}).sum + changes.sum, (former.getD {}).count + changes.length⟩

theorem after_cons (former : Option FactionShift) (change : Int) (changes : List Int) :
    after former (change :: changes) =
      after (some ⟨(former.getD {}).sum + change, (former.getD {}).count + 1⟩) changes := by
  cases changes with
  | nil => simp [after]
  | cons d changes => simp [after, Int.add_assoc, Nat.add_assoc, Nat.add_comm 1]

end FactionShift

namespace LeaningCounts

instance : Add LeaningCounts :=
  ⟨fun a b => ⟨a.good + b.good, a.neutral + b.neutral, a.evil + b.evil⟩⟩

def of (counts : LeaningCounts) : Leaning → Nat
  | .good => counts.good
  | .neutral => counts.neutral
  | .evil => counts.evil

end LeaningCounts

namespace Comparison

open FactionShift

def changesOf (ts : List Transcript) (faction : String) : List Int :=
  ts.filterMap (·.reputationChanges.get? faction)

/-! Factions. -/

theorem get?_foldl_addShift (changes : List (String × Int)) (shifts : SortedMap String FactionShift)
    (faction : String) : (changes.foldl addShift shifts).get? faction =
      after (shifts.get? faction) ((changes.filter (·.1 = faction)).map (·.2)) := by
  induction changes generalizing shifts with
  | nil => rfl
  | cons change changes ih =>
    rw [List.foldl_cons, ih, addShift, SortedMap.get?_insert]
    by_cases here : faction = change.1
    · subst here
      simp [after_cons, SortedMap.getD]
    · have other : change.1 ≠ faction := Ne.symm here
      simp [here, other]

theorem get?_factionShifts (ts : List Transcript) (faction : String) :
    (factionShifts ts).get? faction = after none (changesOf ts faction) := by
  have listed : ((ts.flatMap (·.reputationChanges.entries)).filter (·.1 = faction)).map (·.2) =
      changesOf ts faction := by
    rw [List.filter_flatMap, List.map_flatMap, changesOf, List.filterMap_eq_flatMap_toList]
    simp only [SortedMap.map_snd_filter_entries]
  rw [factionShifts, ← List.foldl_flatMap, get?_foldl_addShift, listed]
  rfl

theorem getD_factionShifts (ts : List Transcript) (faction : String) :
    (factionShifts ts).getD faction {} =
      ⟨(changesOf ts faction).sum, (changesOf ts faction).length⟩ := by
  rw [SortedMap.getD, get?_factionShifts, after]
  by_cases none : changesOf ts faction = []
  · simp [none]
  · simp [none]

theorem changesOf_eq_nil_iff {ts : List Transcript} {faction : String} :
    changesOf ts faction = [] ↔ ¬ ∃ t ∈ ts, t.reputationChanges.contains faction = true := by
  simp [changesOf, SortedMap.contains]

theorem length_changesOf (ts : List Transcript) (faction : String) :
    (changesOf ts faction).length = ts.countP (·.reputationChanges.contains faction) :=
  List.length_filterMap_eq_countP

theorem sum_changesOf (ts : List Transcript) (faction : String) :
    (changesOf ts faction).sum = (ts.map (·.reputationChanges.getD faction 0)).sum := by
  induction ts with
  | nil => rfl
  | cons t ts ih =>
    rw [List.map_cons, List.sum_cons, ← ih, changesOf, List.filterMap_cons, SortedMap.getD]
    cases t.reputationChanges.get? faction with
    | none => exact (Int.zero_add _).symm
    | some change => exact List.sum_cons

theorem contains_factionShifts_iff {ts : List Transcript} {faction : String} :
    (factionShifts ts).contains faction = true ↔
      ∃ t ∈ ts, t.reputationChanges.contains faction = true := by
  rw [← not_iff_not, ← changesOf_eq_nil_iff, SortedMap.contains, get?_factionShifts, after]
  by_cases none : changesOf ts faction = [] <;> simp [none]

/-! Leanings and styles. -/

theorem of_countLeanings (ts : List Transcript) (l : Leaning) :
    (countLeanings ts).of l = ts.countP (·.final.alignment.dominant = l) := by
  cases l <;> rfl

theorem sum_countLeanings (ts : List Transcript) :
    (countLeanings ts).good + (countLeanings ts).neutral + (countLeanings ts).evil = ts.length := by
  have known : ∀ t ∈ ts, t.final.alignment.dominant ∈ [Leaning.good, .neutral, .evil] := by
    intro t _
    cases t.final.alignment.dominant <;> decide
  have total := Classes.sum_countP (by decide) (fun t : Transcript => t.final.alignment.dominant) known
  simpa [countLeanings, Nat.add_assoc] using total

def figuresAmong (ts : List Transcript) (s : PlayStyle) : StyleFigures :=
  styleFigures (ts.filter (·.style = s))

theorem count_figuresAmong (ts : List Transcript) (s : PlayStyle) :
    (figuresAmong ts s).count = ts.countP (·.style = s) := List.countP_eq_length_filter.symm

theorem mem_styleTable_iff {ts : List Transcript} {s : PlayStyle} {figures : StyleFigures} :
    (s, figures) ∈ styleTable ts ↔
      figures = figuresAmong ts s ∧ ts.countP (·.style = s) ≠ 0 := by
  rw [← count_figuresAmong]
  exact (Classes.mem_table_iff (figuresAmong ts) (·.count)).trans (and_iff_right s.mem_all)

theorem lookup_styleTable (ts : List Transcript) (s : PlayStyle) :
    (styleTable ts).lookup s =
      if ts.countP (·.style = s) ≠ 0 then some (figuresAmong ts s) else none := by
  rw [← count_figuresAmong]
  refine (Classes.lookup_table (figuresAmong ts) (·.count) s).trans ?_
  simp only [PlayStyle.mem_all, true_and]

theorem sum_styleTable (ts : List Transcript) :
    ((styleTable ts).map (·.2.count)).sum = ts.length := by
  rw [← Classes.sum_countP (by decide) (·.style) fun t _ => t.style.mem_all]
  exact (Classes.sum_table (figuresAmong ts) (·.count)).trans (by simp only [count_figuresAmong])

theorem mem_styles_iff {ts : List Transcript} {s : PlayStyle} :
    s ∈ (styleTable ts).map (·.1) ↔ ∃ t ∈ ts, t.style = s := by
  have occurs : ts.countP (·.style = s) ≠ 0 ↔ ∃ t ∈ ts, t.style = s := by
    rw [← Nat.pos_iff_ne_zero, List.countP_pos_iff]
    simp
  rw [← occurs, List.mem_map]
  constructor
  · rintro ⟨⟨_, figures⟩, here, rfl⟩
    exact (mem_styleTable_iff.1 here).2
  · intro some_there
    exact ⟨(s, figuresAmong ts s), mem_styleTable_iff.2 ⟨rfl, some_there⟩, rfl⟩

/-! Figures that are whole numbers. -/

/-- The figures of a comparison that are whole numbers. Where a faction or a style does not occur
they are zero. -/
@[ext] structure WholeFigures where
  total : Nat
  shift : String → FactionShift
  leanings : LeaningCounts
  styled : PlayStyle → Nat

instance : Add WholeFigures :=
  ⟨fun a b => {
    total := a.total + b.total
    shift := fun faction => a.shift faction + b.shift faction
    leanings := a.leanings + b.leanings
    styled := fun s => a.styled s + b.styled s }⟩

def whole (c : Comparison) : WholeFigures :=
  { total := c.total
    shift := fun faction => c.factions.getD faction {}
    leanings := c.leanings
    styled := fun s => ((c.styles.lookup s).map (·.count)).getD 0 }

theorem whole_ofTranscripts (ts : List Transcript) : (ofTranscripts ts).whole =
    { total := ts.length
      shift := fun faction => ⟨(changesOf ts faction).sum, (changesOf ts faction).length⟩
      leanings := countLeanings ts
      styled := fun s => ts.countP (·.style = s) } := by
  ext1
  · rfl
  · exact funext (getD_factionShifts ts)
  · rfl
  · funext s
    change ((((styleTable ts).lookup s).map (·.count)).getD 0) = _
    rw [lookup_styleTable]
    by_cases none : ts.countP (·.style = s) = 0 <;> simp [none, count_figuresAmong]

theorem whole_append (xs ys : List Transcript) :
    (ofTranscripts (xs ++ ys)).whole = (ofTranscripts xs).whole + (ofTranscripts ys).whole := by
  simp only [whole_ofTranscripts]
  ext1
  · exact List.length_append
  · funext faction
    change (⟨_, _⟩ : FactionShift) = ⟨_, _⟩
    simp only [changesOf, List.filterMap_append, List.sum_append, List.length_append]
  · change (⟨_, _, _⟩ : LeaningCounts) = ⟨_, _, _⟩
    simp only [List.countP_append]
    rfl
  · exact funext fun s => List.countP_append

theorem whole_perm {xs ys : List Transcript} (same : xs.Perm ys) :
    (ofTranscripts xs).whole = (ofTranscripts ys).whole := by
  simp only [whole_ofTranscripts]
  ext1
  · exact same.length_eq
  · funext faction
    have changes : (changesOf xs faction).Perm (changesOf ys faction) := same.filterMap _
    exact congrArg₂ FactionShift.mk changes.sum_eq changes.length_eq
  · simp only [countLeanings, same.countP_eq]
  · exact funext fun s => same.countP_eq _

theorem factionShifts_perm {xs ys : List Transcript} (same : xs.Perm ys) :
    factionShifts xs = factionShifts ys := by
  apply SortedMap.ext_get?
  intro faction
  have changes : (changesOf xs faction).Perm (changesOf ys faction) := same.filterMap _
  rw [get?_factionShifts, get?_factionShifts, after, after, changes.sum_eq, changes.length_eq]
  simp only [← List.length_eq_zero_iff, changes.length_eq]

/-! Averages. -/

/-- The quotient of a total by a count, or zero where there is nothing to count. -/
inductive IsMean (total : Float) : Nat → Float → Prop
  | quotient {count : Nat} (some_there : count ≠ 0) :
    IsMean total count (total / Float.ofNat count)
  | nothing : IsMean total 0 0.0

theorem isMean_mean (total : Float) (count : Nat) : IsMean total count (mean total count) := by
  rw [mean]
  split
  · rename_i none
    subst none
    exact .nothing
  · rename_i some_there
    exact .quotient some_there

theorem isMean_meanOf (f : Transcript → Float) (ts : List Transcript) :
    IsMean ((ts.map f).foldl (· + ·) (-0.0)) ts.length (meanOf f ts) := isMean_mean _ _

/-- Figures that sum up transcripts of one style, of which there is one at least. What is not a whole
number is added up in order. -/
structure SumsUp (own : List Transcript) (figures : StyleFigures) : Prop where
  nonempty : own ≠ []
  count : figures.count = own.length
  experience : IsMean ((own.map fun t => Float.ofInt t.experienceGained).foldl (· + ·) (-0.0))
    figures.count figures.averageExperience
  completed : IsMean (Float.ofNat (own.map (·.completed)).sum) figures.count
    figures.averageCompleted
  success : IsMean (Float.ofNat (own.map (·.completed)).sum) (own.map (·.attempted)).sum
    figures.successRate

theorem sumsUp_styleFigures {own : List Transcript} (nonempty : own ≠ []) :
    SumsUp own (styleFigures own) := by
  have completed : own.foldl (fun n t => n + t.completed) 0 = (own.map (·.completed)).sum := by
    rw [List.sum_eq_foldl, List.foldl_map]
  have attempted : own.foldl (fun n t => n + t.attempted) 0 = (own.map (·.attempted)).sum := by
    rw [List.sum_eq_foldl, List.foldl_map]
  exact {
    nonempty
    count := rfl
    experience := isMean_meanOf _ own
    completed := completed ▸ isMean_mean _ _
    success := by
      rw [← completed, ← attempted]
      exact isMean_mean _ _ }

/-! The comparison. -/

structure Aggregates (ts : List Transcript) (c : Comparison) : Prop where
  total : c.total = ts.length
  seconds : IsMean ((ts.map fun t => Float.ofNat t.seconds).foldl (· + ·) (-0.0)) ts.length
    c.averageSeconds
  experience : IsMean ((ts.map fun t => Float.ofInt t.experienceGained).foldl (· + ·) (-0.0))
    ts.length c.averageExperience
  completed : IsMean ((ts.map fun t => Float.ofNat t.completed).foldl (· + ·) (-0.0)) ts.length
    c.averageCompleted
  leaning : ∀ l, c.leanings.of l = ts.countP (·.final.alignment.dominant = l)
  leanings : c.leanings.good + c.leanings.neutral + c.leanings.evil = ts.length
  faction : ∀ f, c.factions.contains f = true ↔
    ∃ t ∈ ts, t.reputationChanges.contains f = true
  shift : ∀ f s, c.factions.get? f = some s →
    s.count = ts.countP (·.reputationChanges.contains f) ∧ s.count ≠ 0 ∧
    s.sum = (ts.map (·.reputationChanges.getD f 0)).sum ∧
    IsMean (Float.ofInt s.sum) s.count s.average
  distinct : (c.styles.map (·.1)).Nodup
  style : ∀ s, s ∈ c.styles.map (·.1) ↔ ∃ t ∈ ts, t.style = s
  styled : ∀ s figures, (s, figures) ∈ c.styles → SumsUp (ts.filter (·.style = s)) figures
  styles : (c.styles.map (·.2.count)).sum = ts.length

theorem aggregates_ofTranscripts (ts : List Transcript) : Aggregates ts (ofTranscripts ts) where
  total := rfl
  seconds := isMean_meanOf _ ts
  experience := isMean_meanOf _ ts
  completed := isMean_meanOf _ ts
  leaning := of_countLeanings ts
  leanings := sum_countLeanings ts
  faction := fun _ => contains_factionShifts_iff
  shift := by
    intro f s known
    have listed : changesOf ts f ≠ [] := by
      rw [Ne, changesOf_eq_nil_iff, not_not, ← contains_factionShifts_iff]
      exact Option.isSome_of_mem known
    have figures : s = ⟨(changesOf ts f).sum, (changesOf ts f).length⟩ := by
      rw [← getD_factionShifts, SortedMap.getD]
      exact (congrArg (·.getD {}) known).symm
    rw [figures, ← length_changesOf, ← sum_changesOf]
    exact ⟨rfl, fun none => listed (List.length_eq_zero_iff.1 none), rfl, isMean_mean _ _⟩
  distinct := Classes.nodup_keys_table _ _ (by decide)
  style := fun _ => mem_styles_iff
  styled := by
    intro s figures here
    obtain ⟨rfl, some_there⟩ := mem_styleTable_iff.1 here
    apply sumsUp_styleFigures
    intro none
    rw [List.countP_eq_length_filter, none] at some_there
    exact some_there rfl
  styles := sum_styleTable ts

/-- A comparison sums up the transcripts it is given, whatever they are. What it says of them in
whole numbers is the sum of what it says of parts of them, and their order does not matter. -/
theorem ofTranscripts_additive (xs ys zs : List Transcript) :
    Aggregates xs (ofTranscripts xs) ∧
    (ofTranscripts (xs ++ ys)).whole = (ofTranscripts xs).whole + (ofTranscripts ys).whole ∧
    (xs.Perm zs → (ofTranscripts xs).whole = (ofTranscripts zs).whole ∧
      (ofTranscripts xs).factions = (ofTranscripts zs).factions) := by
  refine ⟨aggregates_ofTranscripts xs, whole_append xs ys, ?_⟩
  intro same
  exact ⟨whole_perm same, factionShifts_perm same⟩

def raid : Transcript :=
  { id := .ofNumber 1
    project := none
    storyArc := none
    playerName := "Mara"
    style := .aggressive
    difficulty := .easy
    seed := 1
    initial := {}
    final := { alignment := ⟨10, 20, 70⟩ }
    events := []
    attempted := 3
    completed := 2
    failed := 1
    seconds := 600
    experienceGained := 100
    reputationChanges := .ofList [("guild", 6)]
    alignmentChanges := ⟨0, 0, 0⟩
    termination := .noAvailableQuests
    createdAt := ⟨0, 0⟩ }

def parley : Transcript :=
  { raid with
    style := .diplomatic
    final := {}
    attempted := 0
    completed := 0
    failed := 0
    seconds := 300
    experienceGained := 50
    reputationChanges := .ofList [("guild", -2)] }

theorem raid_and_parley : [raid, parley].Perm [parley, raid] ∧
    (ofTranscripts [raid, parley]).factions = (ofTranscripts [parley, raid]).factions ∧
    (ofTranscripts [parley, raid]).factions.get? "guild" = some ⟨4, 2⟩ ∧
    (ofTranscripts [parley, raid]).styles.map (·.1) = [.aggressive, .diplomatic] ∧
    (ofTranscripts [parley, raid]).averageSeconds = 450.0 ∧
    (ofTranscripts [parley, raid]).averageExperience = 75.0 ∧
    (ofTranscripts [parley, raid]).averageCompleted = 1.0 ∧
    (ofTranscripts [parley, raid]).styles.map
      (fun (_, s) => (s.averageExperience, s.averageCompleted, s.successRate)) =
        [(100.0, 2.0, 2.0 / 3.0), (50.0, 0.0, 0.0)] ∧
    ((ofTranscripts [parley, raid]).factions.get? "guild").map (·.average) = some 2.0 ∧
    (ofTranscripts []).averageSeconds = 0.0 := by
  obtain ⟨_, _, ordered⟩ := ofTranscripts_additive [raid, parley] [] [parley, raid]
  have same : [raid, parley].Perm [parley, raid] := .swap parley raid []
  refine ⟨same, (ordered same).2, rfl, rfl, ?_⟩
  decide +kernel

end Comparison

end Storyline

import Storyline.Play.Transcript

/-! The comparison of several transcripts: averages, standing, alignment and play styles. -/
namespace Storyline

/-- The shifts of standing with one faction over the transcripts that list it. -/
structure FactionShift where
  sum : Int := 0
  count : Nat := 0

structure LeaningCounts where
  good : Nat := 0
  neutral : Nat := 0
  evil : Nat := 0
  deriving DecidableEq

structure StyleFigures where
  count : Nat
  averageExperience : Float
  averageCompleted : Float
  successRate : Float

structure Comparison where
  total : Nat
  averageSeconds : Float
  averageExperience : Float
  averageCompleted : Float
  factions : SortedMap String FactionShift
  leanings : LeaningCounts
  styles : List (PlayStyle × StyleFigures)

namespace Comparison

def mean (total : Float) (count : Nat) : Float :=
  if count = 0 then 0.0 else total / Float.ofNat count

def sum (xs : List Float) : Float := xs.foldl (· + ·) (-0.0)

def meanOf (f : Transcript → Float) (ts : List Transcript) : Float :=
  mean (sum (ts.map f)) ts.length

def addShift (shifts : SortedMap String FactionShift) (change : String × Int) :
    SortedMap String FactionShift :=
  let former := shifts.getD change.1 {}
  shifts.insert change.1 { sum := former.sum + change.2, count := former.count + 1 }

def factionShifts (ts : List Transcript) : SortedMap String FactionShift :=
  ts.foldl (fun shifts t => t.reputationChanges.entries.foldl addShift shifts) ∅

def countLeanings (ts : List Transcript) : LeaningCounts :=
  let count (l : Leaning) := ts.countP (·.final.alignment.dominant = l)
  { good := count .good, neutral := count .neutral, evil := count .evil }

/-- The figures of transcripts of one style. The success rate pools their quests. -/
def styleFigures (ts : List Transcript) : StyleFigures :=
  let attempted := ts.foldl (fun n t => n + t.attempted) 0
  let completed := ts.foldl (fun n t => n + t.completed) 0
  { count := ts.length
    averageExperience := meanOf (fun t => Float.ofInt t.experienceGained) ts
    averageCompleted := mean (Float.ofNat completed) ts.length
    successRate := mean (Float.ofNat completed) attempted }

def styleTable (ts : List Transcript) : List (PlayStyle × StyleFigures) :=
  (PlayStyle.all.map fun s => (s, styleFigures (ts.filter (·.style = s)))).filter (·.2.count ≠ 0)

def ofTranscripts (ts : List Transcript) : Comparison :=
  { total := ts.length
    averageSeconds := meanOf (fun t => Float.ofNat t.seconds) ts
    averageExperience := meanOf (fun t => Float.ofInt t.experienceGained) ts
    averageCompleted := meanOf (fun t => Float.ofNat t.completed) ts
    factions := factionShifts ts
    leanings := countLeanings ts
    styles := styleTable ts }

end Comparison

def FactionShift.average (s : FactionShift) : Float := Comparison.mean (Float.ofInt s.sum) s.count

def FactionShift.toJson (s : FactionShift) : Json :=
  .object [
    ("sum", .integer s.sum), ("count", .integer s.count), ("average", .real s.average)]

def StyleFigures.toJson (s : StyleFigures) : Json :=
  .object [
    ("count", .integer s.count),
    ("average_experience", .real s.averageExperience),
    ("average_quests_completed", .real s.averageCompleted),
    ("success_rate", .real s.successRate)]

def Comparison.toJson (c : Comparison) : Json :=
  .object [
    ("total_simulations", .integer c.total),
    ("average_duration", .real c.averageSeconds),
    ("average_experience", .real c.averageExperience),
    ("average_quests_completed", .real c.averageCompleted),
    ("reputation_changes", Json.ofNamedMap FactionShift.toJson c.factions),
    ("alignment_distribution", .object [
      ("good", .integer c.leanings.good),
      ("neutral", .integer c.leanings.neutral),
      ("evil", .integer c.leanings.evil)]),
    ("play_style_analysis", .object (c.styles.map fun (s, figures) => (s.name, figures.toJson)))]

end Storyline

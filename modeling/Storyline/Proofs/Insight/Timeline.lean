import Storyline.Insight.Analysis
import Storyline.Proofs.Number.Classes
import Storyline.Proofs.Play.Level
import Storyline.Proofs.Play.Tone

/-!
What an analysis makes of one transcript. Each event counts once among the kinds and once among the
spans of time. The factions named are those whose standing rose and fell the most.
-/
namespace Storyline

theorem EventKind.mem_all (k : EventKind) : k ∈ all := by cases k <;> decide

namespace Timeline

variable {events : List Event}

theorem spanOf_le (e : Event) : spanOf e ≤ e.timestamp := Nat.div_mul_le_self _ _

theorem spanOf_eq_iff {e : Event} {k : Nat} : spanOf e = k ↔
    spanSeconds ∣ k ∧ k ≤ e.timestamp ∧ e.timestamp < k + spanSeconds := by
  unfold spanOf spanSeconds
  omega

theorem get?_foldl_count (events : List Event) (spans : SortedMap Nat Nat) (k : Nat) :
    (events.foldl count spans).get? k =
      if events.countP (spanOf · = k) = 0 then spans.get? k
      else some (spans.getD k 0 + events.countP (spanOf · = k)) := by
  induction events generalizing spans with
  | nil => rfl
  | cons e events ih =>
    rw [List.foldl_cons, ih, count, SortedMap.get?_insert]
    by_cases here : spanOf e = k
    · subst here
      by_cases last : events.countP (spanOf · = spanOf e) = 0
      · simp [last]
      · simp [last, SortedMap.getD, Nat.add_assoc, Nat.add_comm 1]
    · have other : k ≠ spanOf e := Ne.symm here
      simp [here, other, SortedMap.getD]

theorem mem_spans_iff {k n : Nat} : (k, n) ∈ (ofEvents events).spans.entries ↔
    n = events.countP (spanOf · = k) ∧ n ≠ 0 := by
  rw [SortedMap.mem_entries_iff, ofEvents, get?_foldl_count]
  have nothing : (∅ : SortedMap Nat Nat).get? k = none := rfl
  by_cases absent : events.countP (spanOf · = k) = 0
  · simp_all
  · simp only [absent, if_false, SortedMap.getD, nothing, Option.getD_none, Nat.zero_add,
      Option.some.injEq]
    constructor
    · rintro rfl
      exact ⟨rfl, absent⟩
    · rintro ⟨rfl, _⟩
      rfl

theorem spanOf_mem_keys {e : Event} (he : e ∈ events) :
    spanOf e ∈ (ofEvents events).spans.keys := by
  have occurs : events.countP (spanOf · = spanOf e) ≠ 0 :=
    Nat.ne_of_gt (List.countP_pos_iff.2 ⟨e, he, by simp⟩)
  exact List.mem_map.2 ⟨(spanOf e, _), mem_spans_iff.2 ⟨rfl, occurs⟩, rfl⟩

theorem countP_spanOf {k : Nat} (multiple : spanSeconds ∣ k) : events.countP (spanOf · = k) =
    events.countP fun e => k ≤ e.timestamp ∧ e.timestamp < k + spanSeconds := by
  congr 1
  funext e
  simp [spanOf_eq_iff, multiple]

theorem mem_spans_iff_timestamps {k n : Nat} : (k, n) ∈ (ofEvents events).spans.entries ↔
    n ≠ 0 ∧ spanSeconds ∣ k ∧
      n = events.countP fun e => k ≤ e.timestamp ∧ e.timestamp < k + spanSeconds := by
  rw [mem_spans_iff]
  constructor
  · rintro ⟨counted, occurs⟩
    have multiple : spanSeconds ∣ k := by
      obtain ⟨e, _, here⟩ := List.countP_pos_iff.1 (Nat.pos_of_ne_zero (counted ▸ occurs))
      exact (spanOf_eq_iff.1 (of_decide_eq_true here)).1
    exact ⟨occurs, multiple, counted.trans (countP_spanOf multiple)⟩
  · rintro ⟨occurs, multiple, counted⟩
    exact ⟨counted.trans (countP_spanOf multiple).symm, occurs⟩

structure Accounts (tl : Timeline) (events : List Event) : Prop where
  kindsOnce : (tl.histogram.map (·.1)).Nodup
  kind : ∀ k n, (k, n) ∈ tl.histogram ↔ n = events.countP (·.kind = k) ∧ n ≠ 0
  kinds : (tl.histogram.map (·.2)).sum = events.length
  span : ∀ k n, (k, n) ∈ tl.spans.entries ↔ n ≠ 0 ∧ spanSeconds ∣ k ∧
    n = events.countP fun e => k ≤ e.timestamp ∧ e.timestamp < k + spanSeconds
  spans : (tl.spans.entries.map (·.2)).sum = events.length
  inRange : ∀ limit, (∀ e ∈ events, e.timestamp ≤ limit) → ∀ k ∈ tl.spans.keys, k ≤ limit
  critical : tl.critical <+: events.filter isCritical ∧
    tl.critical.length = min maxCritical (events.filter isCritical).length

theorem sum_spans (events : List Event) :
    ((ofEvents events).spans.entries.map (·.2)).sum = events.length := by
  have distinct := (ofEvents events).spans.keys_nodup
  rw [← Classes.sum_countP distinct spanOf fun e he => spanOf_mem_keys he, SortedMap.keys,
    List.map_map]
  congr 1
  apply List.map_congr_left
  intro e he
  exact (mem_spans_iff.1 he).1

theorem accounts_ofEvents (events : List Event) : (ofEvents events).Accounts events where
  kindsOnce := Classes.nodup_keys_table _ (fun n => n) (by decide)
  kind k n := by
    refine (Classes.mem_table_iff (fun k => events.countP (·.kind = k)) fun n => n).trans ?_
    constructor
    · rintro ⟨_, rfl, occurs⟩
      exact ⟨rfl, occurs⟩
    · rintro ⟨rfl, occurs⟩
      exact ⟨k.mem_all, rfl, occurs⟩
  kinds := by
    rw [← Classes.sum_countP (by decide) (·.kind) fun e _ => e.kind.mem_all]
    exact Classes.sum_table (fun k => events.countP (·.kind = k)) fun n => n
  span _ _ := mem_spans_iff_timestamps
  spans := sum_spans events
  inRange limit past k hk := by
    obtain ⟨entry, he, rfl⟩ := List.mem_map.1 hk
    obtain ⟨counted, occurs⟩ := mem_spans_iff.1 he
    obtain ⟨e, he, same⟩ := List.countP_pos_iff.1 (Nat.pos_of_ne_zero (counted ▸ occurs))
    have here : spanOf e = entry.1 := by simpa using same
    exact here ▸ Nat.le_trans (spanOf_le e) (past e he)
  critical := ⟨List.take_prefix _ _, List.length_take⟩

end Timeline

namespace Analysis

def foremost (fit : Int → Prop) (beats : Int → Int → Prop) [DecidablePred fit]
    [DecidableRel beats] : List (String × Int) → Option (String × Int)
  | [] => none
  | e :: rest =>
    match foremost fit beats rest with
    | some best => if beats e.2 best.2 then some e else some best
    | none => if fit e.2 then some e else none

theorem greatestGain_eq (l : List (String × Int)) :
    greatestGain l = foremost (0 < ·) (· > ·) l := by
  induction l with
  | nil => rfl
  | cons e rest ih =>
    cases found : foremost (0 < ·) (· > ·) rest <;> simp [greatestGain, foremost, ih, found]

theorem greatestLoss_eq (l : List (String × Int)) :
    greatestLoss l = foremost (· < 0) (· ≤ ·) l := by
  induction l with
  | nil => rfl
  | cons e rest ih =>
    cases found : foremost (· < 0) (· ≤ ·) rest <;> simp [greatestLoss, foremost, ih, found]

structure Ranks (fit : Int → Prop) (beats : Int → Int → Prop) : Prop where
  upward : ∀ a b, beats a b → fit b → fit a
  unfit : ∀ a b, fit a → ¬ fit b → beats a b
  trans : ∀ a b c, beats a b → beats b c → beats a c
  past : ∀ a b c, beats a b → ¬ beats c b → beats a c

theorem ranks_gain : Ranks (0 < ·) (· > ·) := by constructor <;> omega

theorem ranks_loss : Ranks (· < 0) (· ≤ ·) := by constructor <;> omega

section Foremost

variable {fit : Int → Prop} {beats : Int → Int → Prop} [DecidablePred fit] [DecidableRel beats]
  {l : List (String × Int)}

/-- No entry before the winner beats it, and it beats those after it. -/
theorem foremost_spec (ranks : Ranks fit beats) :
    match foremost fit beats l with
    | none => ∀ e ∈ l, ¬ fit e.2
    | some e => fit e.2 ∧ ∃ before after, l = before ++ e :: after ∧
        (∀ f ∈ before, ¬ beats f.2 e.2) ∧ ∀ f ∈ after, beats e.2 f.2 := by
  induction l with
  | nil => simp [foremost]
  | cons e rest ih =>
    rw [foremost]
    cases found : foremost fit beats rest with
    | none =>
      rw [found] at ih
      by_cases fits : fit e.2
      · simp only [fits, if_true]
        exact ⟨trivial, [], rest, rfl, by simp, fun f hf => ranks.unfit _ _ fits (ih f hf)⟩
      · simpa [fits] using ih
    | some best =>
      rw [found] at ih
      obtain ⟨fits, before, after, rfl, former, later⟩ := ih
      by_cases wins : beats e.2 best.2
      · simp only [wins, if_true]
        refine ⟨ranks.upward _ _ wins fits, [], _, rfl, by simp, ?_⟩
        intro f hf
        rcases List.mem_append.1 hf with hf | hf
        · exact ranks.past _ _ _ wins (former f hf)
        · rcases List.mem_cons.1 hf with rfl | hf
          · exact wins
          · exact ranks.trans _ _ _ wins (later f hf)
      · simp only [wins, if_false]
        exact ⟨fits, e :: before, after, rfl, List.forall_mem_cons.2 ⟨wins, former⟩, later⟩

theorem exists_foremost_iff (ranks : Ranks fit beats) :
    (∃ f, foremost fit beats l = some f) ↔ ∃ e ∈ l, fit e.2 := by
  have spec := foremost_spec (l := l) ranks
  cases found : foremost fit beats l with
  | none =>
    rw [found] at spec
    simpa using spec
  | some f =>
    rw [found] at spec
    obtain ⟨fits, before, after, rfl, _, _⟩ := spec
    exact iff_of_true ⟨f, rfl⟩ ⟨f, by simp, fits⟩

/-- The faction named is one of those whose change is fit, if there are any, and its change is at
least as good as that of any other faction. -/
structure Names (changes : SortedMap String Int) (fit : Int → Prop) (atLeast : Int → Int → Prop)
    (named : Option String) : Prop where
  exists_iff : (∃ f, named = some f) ↔ ∃ f d, changes.get? f = some d ∧ fit d
  best : ∀ f, named = some f → ∃ d, changes.get? f = some d ∧ fit d ∧
    ∀ g d', changes.get? g = some d' → atLeast d d'

theorem names_foremost (ranks : Ranks fit beats) {atLeast : Int → Int → Prop}
    (refl : ∀ a, atLeast a a) (better : ∀ a b, beats a b → atLeast a b)
    (unbeaten : ∀ a b, ¬ beats b a → atLeast a b) (changes : SortedMap String Int) :
    Names changes fit atLeast ((foremost fit beats changes.entries).map (·.1)) where
  exists_iff := by
    simp only [Option.map_eq_some_iff, ← SortedMap.mem_entries_iff]
    constructor
    · rintro ⟨_, e, found, rfl⟩
      obtain ⟨e', he', fits⟩ := (exists_foremost_iff ranks).1 ⟨e, found⟩
      exact ⟨e'.1, e'.2, he', fits⟩
    · rintro ⟨f, d, here, fits⟩
      obtain ⟨e, found⟩ := (exists_foremost_iff ranks).2 ⟨(f, d), here, fits⟩
      exact ⟨e.1, e, found, rfl⟩
  best f named := by
    obtain ⟨e, found, rfl⟩ := Option.map_eq_some_iff.1 named
    have spec := foremost_spec (l := changes.entries) ranks
    rw [found] at spec
    obtain ⟨fits, before, after, listed, former, later⟩ := spec
    refine ⟨e.2, SortedMap.mem_entries_iff.1 (by simp [listed]), fits, ?_⟩
    intro g d' here
    rw [← SortedMap.mem_entries_iff, listed, List.mem_append, List.mem_cons] at here
    rcases here with here | rfl | here
    · exact unbeaten _ _ (former _ here)
    · exact refl _
    · exact better _ _ (later _ here)

end Foremost

theorem isCritical_iff {e : Event} (toned : e.Toned) :
    Timeline.isCritical e = true ↔ e.kind = .questComplete ∨ e.TellsLevel := by
  have critical : Timeline.isCritical e = true ↔
      (e.tone = .success ∨ e.tone = .error) ∨ e.kind = .questComplete := by
    simp [Timeline.isCritical, or_comm]
  rw [critical, show _ ↔ _ from toned]
  exact ⟨fun either => either.elim id .inl, .inl⟩

/-- The analysis of a transcript accounts for every event. The counts by kind and those by span of
time add up to the number of events; a span that is listed begins at a multiple of its length and
counts the events in it, of which there are some. The critical events are the first ones in the
order of the log. The factions named have the greatest gain and the greatest loss. In the transcript
of a run the critical events are the ends of quests and the levels reached. -/
theorem accounts_for_events (t : Transcript) :
    (ofTranscript t).timeline.Accounts t.events ∧
    Names t.reputationChanges (0 < ·) (· ≥ ·) (ofTranscript t).mostImproved ∧
    Names t.reputationChanges (· < 0) (· ≤ ·) (ofTranscript t).mostDamaged ∧
    ∀ s : Scenario, s.Yields t → ∀ e ∈ t.events,
      (Timeline.isCritical e = true ↔ e.kind = .questComplete ∨ e.TellsLevel) := by
  refine ⟨Timeline.accounts_ofEvents t.events, ?_, ?_, ?_⟩
  · rw [ofTranscript, greatestGain_eq]
    exact names_foremost ranks_gain (by omega) (by omega) (by omega) _
  · rw [ofTranscript, greatestLoss_eq]
    exact names_foremost ranks_loss (by omega) (by omega) (by omega) _
  · exact fun s told e he => isCritical_iff (told.toned e he)

def outingTranscript : Transcript :=
  .ofRun ⟨⟨0⟩, ⟨0, 0⟩⟩ {} .aggressive 2 Run.outingAtStart.player
    (Run.step Run.outing Run.outingAtStart).1 .noAvailableQuests

theorem outing_accounted :
    (∀ e ∈ outingTranscript.events,
      (Timeline.isCritical e = true ↔ e.kind = .questComplete ∨ e.TellsLevel)) ∧
    (ofTranscript outingTranscript).timeline.critical.map (·.kind) =
      [.questComplete, .statChange] := by
  have told : Run.outing.Yields outingTranscript :=
    ⟨{}, 60, .ofSeed 2, ⟨⟨0⟩, ⟨0, 0⟩⟩, {}, 2, _, .noAvailableQuests, .single rfl, rfl⟩
  obtain ⟨_, _, _, critical⟩ := accounts_for_events outingTranscript
  exact ⟨critical Run.outing told, by decide +kernel⟩

end Analysis

end Storyline

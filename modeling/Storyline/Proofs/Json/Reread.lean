import Storyline.Proofs.Json.Record
import Storyline.Proofs.Json.Text

/-!
Records whose reals are replaced, and records that are read from sound values. What a record is made
of is replaced part by part, and what holds of all that a part can be read from holds of the part.
-/
namespace Storyline.Json

variable {α : Type} (back : Float → Option Float)

mutual

theorem reread_some : ∀ j : Json, reread some j = j
  | null => rfl
  | bool _ => rfl
  | integer _ => rfl
  | real _ => rfl
  | string _ => rfl
  | array items => by rw [reread, rereadItems_some items]
  | object fields => by rw [reread, rereadFields_some fields]
  | unreadable => rfl

theorem rereadItems_some : ∀ items : List Json, rereadItems some items = items
  | [] => rfl
  | item :: rest => by rw [rereadItems, reread_some item, rereadItems_some rest]

theorem rereadFields_some : ∀ fields : List (String × Json), rereadFields some fields = fields
  | [] => rfl
  | (_, value) :: rest => by rw [rereadFields, reread_some value, rereadFields_some rest]

end

theorem number?_reread {x : Float} (finite : x.isFinite = true) :
    number? (reread back (ofNumber x)) = back x := by
  rw [ofNumber, if_pos finite, reread]
  cases back x <;> rfl

@[simp] theorem reread_string (s : String) : reread back (string s) = string s := rfl

theorem reread_ofOptional {written : α → Json} (same : ∀ v, reread back (written v) = written v)
    (o : Option α) : reread back (ofOptional written o) = ofOptional written o := by
  cases o with
  | none => rfl
  | some v => exact same v

@[simp] theorem reread_ofOptional_string (o : Option String) :
    reread back (ofOptional string o) = ofOptional string o :=
  reread_ofOptional back (fun _ => rfl) o

@[simp] theorem reread_ofOptional_integer (o : Option Nat) :
    reread back (ofOptional (fun (n : Nat) => integer n) o) =
      ofOptional (fun (n : Nat) => integer n) o :=
  reread_ofOptional back (fun _ => rfl) o

theorem listOf?_reread {item : Json → Option α} {written : α → Json} {renew : α → Option α}
    {l : List α} (each : ∀ a ∈ l, item (reread back (written a)) = renew a) :
    listOf? item (reread back (.array (l.map written))) = l.mapM renew := by
  rw [reread, rereadItems_eq_map, List.map_map, listOf?]
  exact mapM_map_eq each

theorem listOf?_reread_self {item : Json → Option α} {written : α → Json} {l : List α}
    (each : ∀ a ∈ l, item (reread back (written a)) = some a) :
    listOf? item (reread back (.array (l.map written))) = some l := by
  rw [listOf?_reread back each]
  exact mapM_eq_some_self_iff.2 fun _ _ => rfl

/-! Parts of a record that are sound. -/

variable {gaps : Bool}

theorem sound_ofNumber (x : Float) : Sound gaps (ofNumber x) := by
  unfold ofNumber
  split
  · exact .real ‹_›
  · exact .null

theorem sound_ofOptional {written : α → Json} {o : Option α}
    (each : ∀ v ∈ o, Sound gaps (written v)) : Sound gaps (ofOptional written o) := by
  cases o with
  | none => exact .null
  | some v => exact each v rfl

theorem sound_array {written : α → Json} {l : List α} (each : ∀ a ∈ l, Sound gaps (written a)) :
    Sound gaps (.array (l.map written)) :=
  .array (List.forall_mem_map.2 each)

theorem sound_row? {names : List String} {j : Json} {row : Row} (sound : Sound gaps j)
    (read : row? names j = some row) : ∀ c ∈ row.cells, Sound gaps c.2 := by
  intro c here
  cases sound with
  | object each =>
    simp only [row?] at read
    split at read
    · cases read
      exact each c (List.mem_filter.1 here).1
    · cases read
  | array each =>
    simp only [row?] at read
    split at read
    · cases read
      exact each c.2 (List.of_mem_zip here).2
    · cases read
  | _ => cases read

theorem Row.withDefault_cases {row : Row} {name : String} {default v : α}
    {value : Json → Option α} (sound : ∀ c ∈ row.cells, Sound gaps c.2)
    (read : row.withDefault name default value = some v) :
    v = default ∨ ∃ j, Sound gaps j ∧ value j = some v := by
  unfold Row.withDefault at read
  split at read
  next =>
    cases read
    exact .inl rfl
  next j found =>
    obtain ⟨before, after, cells, -⟩ := List.lookup_eq_some_iff.1 found
    exact .inr ⟨j, sound (name, j) (by simp [cells]), read⟩

theorem exists_of_listOf? {item : Json → Option α} {j : Json} {l : List α} (sound : Sound gaps j)
    (read : listOf? item j = some l) : ∀ a ∈ l, ∃ i, Sound gaps i ∧ item i = some a := by
  cases sound with
  | array items =>
    intro a here
    obtain ⟨i, inside, found⟩ := exists_of_mapM read a here
    exact ⟨i, items i inside, found⟩
  | _ => cases read

theorem value_of_optional? {value : Json → Option α} {j : Json} {v : α}
    (read : optional? value j = some (some v)) : value j = some v := by
  unfold optional? at read
  split at read
  · cases read
  · obtain ⟨w, found, same⟩ := Option.map_eq_some_iff.1 read
    cases same
    exact found

end Storyline.Json

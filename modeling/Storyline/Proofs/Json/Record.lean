import Storyline.Json.Record

/-!
What is written of a record, and what is read of it again: numbers inside their ranges, optional
values, lists, sets and maps come back as they were, and an object that has exactly the declared
fields keeps them all.
-/
namespace Storyline

namespace Json

variable {α κ : Type}

theorem natural?_integer {bound n : Nat} (small : n ≤ bound) :
    natural? bound (.integer n) = some n := by
  simp [natural?, small]

theorem word?_integer {n : Nat} (small : n ≤ Bounded.greatestWord) : word? (.integer n) = some n :=
  natural?_integer small

theorem integer?_integer {n : Int} (inRange : Bounded.InRange n) : integer? (.integer n) = some n :=
  if_pos inRange

theorem optional?_ofOptional {value : Json → Option α} {written : α → Json} {o : Option α}
    (solid : ∀ v, written v ≠ .null) (back : ∀ v ∈ o, value (written v) = some v) :
    optional? value (ofOptional written o) = some o := by
  cases o with
  | none => rfl
  | some v =>
    have present : optional? value (written v) = (value (written v)).map some := by
      cases shape : written v with
      | null => exact absurd shape (solid v)
      | _ => rfl
    rw [ofOptional, present, back v rfl, Option.map_some]

theorem optional?_ofOptional_string (o : Option String) :
    optional? text? (ofOptional string o) = some o :=
  optional?_ofOptional (fun _ => Json.noConfusion) fun _ _ => rfl

theorem mapM_map_eq {β γ : Type} {read : β → Option γ} {written : γ → β} {renew : γ → Option γ}
    {l : List γ} (each : ∀ a ∈ l, read (written a) = renew a) :
    (l.map written).mapM read = l.mapM renew := by
  induction l with
  | nil => rfl
  | cons a l ih =>
    have others := ih fun b here => each b (List.mem_cons_of_mem a here)
    simp only [List.map_cons, List.mapM_cons, each a List.mem_cons_self, others]

theorem mapM_eq_some_self_iff {renew : α → Option α} {l : List α} :
    l.mapM renew = some l ↔ ∀ a ∈ l, renew a = some a := by
  induction l with
  | nil => simp
  | cons a l ih =>
    simp only [List.mapM_cons, List.forall_mem_cons, ← ih]
    cases renew a with
    | none => simp
    | some b =>
      cases List.mapM renew l with
      | none => simp
      | some rest => simp

theorem mapM_written {β γ : Type} {read : β → Option γ} {written : γ → β} {l : List γ}
    (back : ∀ a ∈ l, read (written a) = some a) : (l.map written).mapM read = some l :=
  (mapM_map_eq back).trans (mapM_eq_some_self_iff.2 fun _ _ => rfl)

theorem exists_of_mapM {β : Type} {item : β → Option α} {is : List β} {l : List α}
    (read : is.mapM item = some l) : ∀ a ∈ l, ∃ i ∈ is, item i = some a := by
  induction is generalizing l with
  | nil =>
    cases read
    simp
  | cons i is ih =>
    simp only [List.mapM_cons, Option.bind_eq_bind, Option.bind_eq_some_iff] at read
    obtain ⟨a, first, rest, others, same⟩ := read
    cases same
    refine List.forall_mem_cons.2 ⟨⟨i, List.mem_cons_self, first⟩, fun b here => ?_⟩
    obtain ⟨k, inside, found⟩ := ih others b here
    exact ⟨k, List.mem_cons_of_mem i inside, found⟩

theorem listOf?_array {item : Json → Option α} {written : α → Json} {l : List α}
    (back : ∀ a ∈ l, item (written a) = some a) : listOf? item (.array (l.map written)) = some l :=
  mapM_written back

theorem namedMap?_ofNamedMap {value : Json → Option α} {written : α → Json}
    {m : SortedMap String α} (back : ∀ e ∈ m.entries, value (written e.2) = some e.2) :
    namedMap? value (ofNamedMap written m) = some m := by
  have members : (m.entries.map fun e => (id e.1, written e.2)).mapM (readMember some value) =
      some m.entries := by
    apply mapM_written
    intro e here
    simp [readMember, back e here]
  rw [namedMap?, ofNamedMap, ofMap, mapOf?, members, Option.map_some, SortedMap.ofList_entries]

theorem row?_object {names : List String} {fields : List (String × Json)}
    (declared : fields.map (·.1) = names) (distinct : names.Nodup) :
    row? names (.object fields) = some ⟨false, fields⟩ := by
  subst declared
  have kept : (fields.filter fun f => (fields.map (·.1)).contains f.1) = fields := by
    apply List.filter_eq_self.2
    intro f here
    exact List.contains_iff_mem.2 (List.mem_map_of_mem here)
  simp only [row?, kept, if_pos distinct]

/-! A row of an object is searched cell by cell. -/

namespace Row

variable {cells : List (String × Json)} {name other : String} {j : Json}

@[simp] theorem required_here (value : Json → Option α) :
    (Row.mk false ((name, j) :: cells)).required name value = value j := by
  simp [required]

@[simp] theorem required_later (apart : name ≠ other) (value : Json → Option α) :
    (Row.mk false ((other, j) :: cells)).required name value =
      (Row.mk false cells).required name value := by
  have differ : (name == other) = false := by simpa using apart
  simp [required, List.lookup_cons, differ]

@[simp] theorem withDefault_here (default : α) (value : Json → Option α) :
    (Row.mk false ((name, j) :: cells)).withDefault name default value = value j := by
  simp [withDefault]

@[simp] theorem withDefault_later (apart : name ≠ other) (default : α) (value : Json → Option α) :
    (Row.mk false ((other, j) :: cells)).withDefault name default value =
      (Row.mk false cells).withDefault name default value := by
  have differ : (name == other) = false := by simpa using apart
  simp [withDefault, List.lookup_cons, differ]

@[simp] theorem nullable_named (value : Json → Option α) :
    (Row.mk false cells).nullable name value =
      (Row.mk false cells).withDefault name none (optional? value) := rfl

end Row

@[simp] theorem some_bind_read {β : Type} (v : α) (rest : α → Option β) :
    (some v >>= rest) = rest v := rfl

end Json

end Storyline

import Storyline.Proofs.Json.Numeral

/-!
Texts are read as what was written, on one line and over several. The reader goes over the text of a
value from before it to after it, whatever is still open around it and whatever white space comes
first; each of its steps takes a character, which is why the length of a text is enough of them. The
text of a real need not lead back to it, so a value is read with each of its reals replaced by the
one that the text of it is read as.
-/
namespace Storyline.Json

inductive Exact : Json → Prop
  | null : Exact null
  | bool (b : Bool) : Exact (bool b)
  | integer {n : Int} (fits : FitsWord n) : Exact (integer n)
  | string (s : String) : Exact (string s)
  | array {items : List Json} (each : ∀ j ∈ items, Exact j) : Exact (array items)
  | object {fields : List (String × Json)} (each : ∀ f ∈ fields, Exact f.2) : Exact (object fields)

namespace Reader

/-- One reader becomes another by steps that each take a character. -/
inductive Reaches : Reader → Reader → Prop
  | refl (r : Reader) : Reaches r r
  | step {r s t : Reader} (next : r.step? = some (.inl s))
      (shorter : s.rest.length < r.rest.length) (later : Reaches s t) : Reaches r t

variable {r s t : Reader}

theorem Reaches.trans (first : Reaches r s) (second : Reaches s t) : Reaches r t := by
  induction first with
  | refl => exact second
  | step next shorter _ ih => exact .step next shorter (ih second)

theorem Reaches.run?_eq (reaches : Reaches r s) {n : Nat} (enough : r.rest.length + 2 ≤ n) :
    ∃ m, s.rest.length + 2 ≤ m ∧ run? n r = run? m s := by
  induction reaches generalizing n with
  | refl r => exact ⟨n, enough, rfl⟩
  | step next shorter _ ih =>
    obtain ⟨n, rfl⟩ : ∃ k, n = k + 1 := ⟨n - 1, by omega⟩
    obtain ⟨m, left, same⟩ := ih (n := n) (by omega)
    refine ⟨m, left, ?_⟩
    rw [← same, run?, next]

end Reader

open Reader (Reaches)

def Blank (cs : List Char) : Prop := ∀ c ∈ cs, isSpace c = true

theorem blank_nil : Blank [] := by simp [Blank]

theorem blank_space : Blank [' '] := by
  intro c here
  rw [List.mem_singleton.1 here]
  rfl

theorem blank_newLine (depth : Nat) : Blank (newLine depth).toList := by
  intro c here
  have shape : c = '\n' ∨ c ∈ List.replicate (2 * depth) ' ' := by simpa [newLine] using here
  rcases shape with rfl | here
  · rfl
  · rw [List.eq_of_mem_replicate here]
    rfl

theorem Blank.ends {blank : List Char} (white : Blank blank) {c : Char}
    (closes : c = ',' ∨ c = ']' ∨ c = '\x7d') (rest : List Char) : Ends (blank ++ c :: rest) := by
  intro d here
  cases blank with
  | nil =>
    cases here
    exact .inr closes
  | cons e blank =>
    cases here
    exact .inl (white _ List.mem_cons_self)

theorem skipSpace_blank {blank : List Char} (h : Blank blank) {c : Char} (solid : isSpace c = false)
    (cs : List Char) : skipSpace (blank ++ c :: cs) = c :: cs := by
  rw [skipSpace, List.dropWhile_append_of_pos h, List.dropWhile_cons_of_neg (by simp [solid])]

namespace Reader

variable {stack : List Frame} {blank rest : List Char} {v : Json}

theorem Reaches.once {place : Place} {c : Char} {cs : List Char} {s : Reader}
    (next : step? ⟨place, stack, blank ++ c :: cs⟩ = some (.inl s))
    (shorter : s.rest.length ≤ cs.length) : Reaches ⟨place, stack, blank ++ c :: cs⟩ s := by
  apply Reaches.step next _ (.refl s)
  simp only [List.length_append, List.length_cons]
  omega

theorem Reaches.of_value? {c : Char} {cs : List Char} {s : Reader} (white : Blank blank)
    (solid : isSpace c = false) (read : value? stack (c :: cs) = some s)
    (shorter : s.rest.length ≤ cs.length) : Reaches ⟨.before, stack, blank ++ c :: cs⟩ s := by
  apply Reaches.once _ shorter
  simp [step?, skipSpace_blank white solid, read]

theorem Reaches.next_item (v : Json) (reversed : List Json) (stack : List Frame)
    (rest : List Char) (white : Blank blank) :
    Reaches ⟨.after v, .items reversed :: stack, blank ++ ',' :: rest⟩
      ⟨.before, .items (v :: reversed) :: stack, rest⟩ := by
  apply Reaches.once _ (Nat.le_refl rest.length)
  simp only [step?, skipSpace_blank white (show isSpace ',' = false from rfl)]

theorem Reaches.close_items (v : Json) (reversed : List Json) (stack : List Frame)
    (rest : List Char) (white : Blank blank) :
    Reaches ⟨.after v, .items reversed :: stack, blank ++ ']' :: rest⟩
      ⟨.after (array (v :: reversed).reverse), stack, rest⟩ := by
  apply Reaches.once _ (Nat.le_refl rest.length)
  simp only [step?, skipSpace_blank white (show isSpace ']' = false from rfl)]

def Named (reversed : List (String × Json)) (stack : List Frame) (text : List Char) (t : Reader) :
    Prop :=
  ∃ s, name? reversed true stack text = some s ∧ s.rest.length ≤ text.length ∧ Reaches s t

theorem Named.trans {reversed : List (String × Json)} {text : List Char} {s t : Reader}
    (first : Named reversed stack text s) (second : Reaches s t) : Named reversed stack text t := by
  obtain ⟨r, named, shorter, reaches⟩ := first
  exact ⟨r, named, shorter, reaches.trans second⟩

theorem value?_items {c : Char} {cs : List Char} (white : Blank blank) (solid : isSpace c = false)
    (opens : c ≠ ']') : value? stack ('[' :: (blank ++ c :: cs)) =
      some ⟨.before, .items [] :: stack, c :: cs⟩ := by
  simp only [value?, skipSpace_blank white solid]
  split
  next same => exact absurd (List.cons.inj same).1 opens
  next => rfl

theorem value?_fields {cs : List Char} (white : Blank blank) :
    value? stack ('\x7b' :: (blank ++ '"' :: cs)) = name? [] true stack ('"' :: cs) := by
  simp only [value?, skipSpace_blank white (show isSpace '"' = false from rfl)]
  split
  next same => exact absurd (List.cons.inj same).1 (by decide)
  next => rfl

theorem named_quote {reversed : List (String × Json)} (white : Blank blank) (name : String) :
    Named reversed stack (blank ++ ((quote name).toList ++ ':' :: rest))
      ⟨.before, .fields reversed true (some name) :: stack, rest⟩ := by
  have shape : (quote name).toList ++ ':' :: rest =
      '"' :: (name.toList.flatMap escape ++ '"' :: ':' :: rest) := by
    simp [quote]
  have colon : skipSpace (':' :: rest) = ':' :: rest :=
    skipSpace_blank blank_nil (show isSpace ':' = false from rfl) rest
  refine ⟨_, ?_, ?_, .refl _⟩
  · rw [shape, name?, skipSpace_blank white (show isSpace '"' = false from rfl)]
    simp [takeQuoted?_quote, colon]
  · simp only [List.length_append, List.length_cons]
    omega

theorem Reaches.next_field {reversed : List (String × Json)} {name : String} {t : Reader}
    (white : Blank blank) (named : Named ((name, v) :: reversed) stack rest t) :
    Reaches ⟨.after v, .fields reversed true (some name) :: stack, blank ++ ',' :: rest⟩ t := by
  obtain ⟨s, named, shorter, reaches⟩ := named
  refine (Reaches.once ?_ shorter).trans reaches
  simp only [step?, skipSpace_blank white (show isSpace ',' = false from rfl), addField,
    Option.isSome_some, Bool.and_true, named, Option.map_some]

theorem Reaches.close_fields (v : Json) (name : String) (reversed : List (String × Json))
    (stack : List Frame) (rest : List Char) (white : Blank blank) :
    Reaches ⟨.after v, .fields reversed true (some name) :: stack, blank ++ '\x7d' :: rest⟩
      ⟨.after (object ((name, v) :: reversed).reverse), stack, rest⟩ := by
  apply Reaches.once _ (Nat.le_refl rest.length)
  simp [step?, skipSpace_blank white (show isSpace '\x7d' = false from rfl), addField]

end Reader

/-- The reader goes over a text and has a value behind it. The text does not look like the end of an
array. -/
structure Rereads (text : List Char) (j : Json) : Prop where
  starts : ∃ c cs, text = c :: cs ∧ isSpace c = false ∧ c ≠ ']'
  reaches : ∀ (stack : List Frame) (blank rest : List Char), Blank blank → Ends rest →
    Reaches ⟨.before, stack, blank ++ (text ++ rest)⟩ ⟨.after j, stack, rest⟩

namespace Rereads

variable {text : List Char} {j : Json}

theorem read?_eq (rereads : Rereads text j) : read? (String.ofList text) = some j := by
  have reaches := rereads.reaches [] [] [] blank_nil (by simp [Ends])
  rw [List.nil_append, List.append_nil] at reaches
  obtain ⟨n, left, same⟩ := reaches.run?_eq (Nat.le_refl _)
  obtain ⟨n, rfl⟩ : ∃ m, n = m + 1 := ⟨n - 1, by omega⟩
  rw [read?, String.toList_ofList]
  exact same

theorem of_value? {c : Char} {cs : List Char} (spelled : text = c :: cs) (solid : isSpace c = false)
    (opens : c ≠ ']') (read : ∀ (stack : List Frame) (rest : List Char), Ends rest →
      Reader.value? stack (c :: (cs ++ rest)) = some ⟨.after j, stack, rest⟩) :
    Rereads text j := by
  subst spelled
  refine ⟨⟨c, cs, rfl, solid, opens⟩, ?_⟩
  intro stack blank rest white ends
  rw [List.cons_append]
  exact Reaches.of_value? white solid (read stack rest ends) (by simp)

theorem null : Rereads (scalarText .null).toList .null := by
  have spelled : (scalarText .null).toList = 'n' :: "ull".toList := by
    simp [scalarText]
  exact of_value? spelled rfl (by decide) fun _ _ _ => rfl

theorem bool (b : Bool) : Rereads (scalarText (.bool b)).toList (.bool b) := by
  cases b with
  | true =>
    have spelled : (scalarText (.bool true)).toList = 't' :: "rue".toList := by
      simp [scalarText]
    exact of_value? spelled rfl (by decide) fun _ _ _ => rfl
  | false =>
    have spelled : (scalarText (.bool false)).toList = 'f' :: "alse".toList := by
      simp [scalarText]
    exact of_value? spelled rfl (by decide) fun _ _ _ => rfl

theorem value?_number {c : Char} (number : c = '-' ∨ c.isDigit = true) (stack : List Frame)
    (cs : List Char) : Reader.value? stack (c :: cs) =
      (takeNumber? (c :: cs)).map fun (v, rest) => ⟨.after v, stack, rest⟩ := by
  have other : c ≠ '[' ∧ c ≠ '\x7b' ∧ c ≠ '"' := by
    refine ⟨?_, ?_, ?_⟩ <;> rintro rfl <;> revert number <;> decide
  obtain ⟨bracket, brace, quote⟩ := other
  rw [Reader.value?, if_pos number]
  · exact bracket
  · exact brace
  · exact quote

theorem starts_number {c : Char} (number : c = '-' ∨ c.isDigit = true) :
    isSpace c = false ∧ c ≠ ']' := by
  unfold isSpace
  simp only [Bool.or_eq_false_iff, beq_eq_false_iff_ne, ne_eq, and_assoc]
  refine ⟨?_, ?_, ?_, ?_, ?_⟩ <;> rintro rfl <;> revert number <;> decide

theorem of_takeNumber? {c : Char} {cs : List Char} (spelled : text = c :: cs)
    (number : c = '-' ∨ c.isDigit = true)
    (read : ∀ rest, Ends rest → takeNumber? (text ++ rest) = some (j, rest)) : Rereads text j := by
  obtain ⟨solid, opens⟩ := starts_number number
  refine of_value? spelled solid opens fun stack rest ends => ?_
  rw [value?_number number, ← List.cons_append, ← spelled, read rest ends]
  rfl

theorem integer {n : Int} (fits : FitsWord n) :
    Rereads (scalarText (.integer n)).toList (.integer n) := by
  obtain ⟨c, cs, spelled, number⟩ := toString_starts n
  exact of_takeNumber? spelled number fun rest ends => takeNumber?_integer fits ends

theorem string (s : String) : Rereads (scalarText (.string s)).toList (.string s) := by
  have spelled : (scalarText (.string s)).toList =
      '"' :: (s.toList.flatMap escape ++ ['"']) := by
    simp [scalarText, quote]
  refine of_value? spelled rfl (by decide) fun stack rest _ => ?_
  rw [List.append_assoc, List.singleton_append, Reader.value?, takeQuoted?_quote]
  rfl

end Rereads

/-! Members of an array or object stand one behind the other. -/

def joined (between : List Char) : List (List Char) → List Char
  | [] => []
  | [text] => text
  | text :: rest => text ++ ',' :: (between ++ joined between rest)

def fieldText (gap : List Char) (name : String) (text : List Char) : List Char :=
  (quote name).toList ++ ':' :: (gap ++ text)

namespace Rereads

variable {opening between gap closing : List Char} {write : Json → List Char} {back : Json → Json}

theorem items (apart : Blank between) (end_blank : Blank closing) {items : List Json}
    (each : ∀ j ∈ items, Rereads (write j) (back j)) (present : items ≠ []) (reversed : List Json)
    (stack : List Frame) (blank rest : List Char) (white : Blank blank) :
    Reaches
      ⟨.before, .items reversed :: stack,
        blank ++ (joined between (items.map write) ++ (closing ++ ']' :: rest))⟩
      ⟨.after (.array (reversed.reverse ++ items.map back)), stack, rest⟩ := by
  induction items generalizing reversed blank with
  | nil => exact absurd rfl present
  | cons j others ih =>
    have first := each j List.mem_cons_self
    cases others with
    | nil =>
      have value := first.reaches (.items reversed :: stack) blank (closing ++ ']' :: rest) white
        (end_blank.ends (by simp) rest)
      have closed := Reaches.close_items (back j) reversed stack rest end_blank
      rw [List.reverse_cons] at closed
      exact value.trans closed
    | cons k others =>
      let tail := between ++ (joined between ((k :: others).map write) ++ (closing ++ ']' :: rest))
      have value := first.reaches (.items reversed :: stack) blank (',' :: tail) white
        (blank_nil.ends (by simp) tail)
      have next := Reaches.next_item (back j) reversed stack tail blank_nil
      have later := ih (fun i here => each i (List.mem_cons_of_mem j here)) (by simp)
        (back j :: reversed) between apart
      have whole := (value.trans next).trans later
      simpa [tail, joined] using whole

theorem field (inner : Blank gap) {text : List Char} {v : Json} (value : Rereads text v)
    (name : String) (reversed : List (String × Json)) (stack : List Frame) {blank : List Char}
    (rest : List Char) (white : Blank blank) (ends : Ends rest) :
    Reader.Named reversed stack (blank ++ (fieldText gap name text ++ rest))
      ⟨.after v, .fields reversed true (some name) :: stack, rest⟩ := by
  have named : Reader.Named reversed stack _ _ :=
    (Reader.named_quote white name).trans (value.reaches _ gap rest inner ends)
  simpa [fieldText] using named

/-- The reader takes the name of the first field of an object, goes over all fields, one after the
other, and closes the object. -/
theorem fields (apart : Blank between) (inner : Blank gap) (end_blank : Blank closing)
    {fields : List (String × Json)} (each : ∀ f ∈ fields, Rereads (write f.2) (back f.2))
    (present : fields ≠ []) (reversed : List (String × Json)) (stack : List Frame)
    (blank rest : List Char) (white : Blank blank) :
    Reader.Named reversed stack
      (blank ++ (joined between (fields.map fun f => fieldText gap f.1 (write f.2)) ++
        (closing ++ '\x7d' :: rest)))
      ⟨.after (.object (reversed.reverse ++ fields.map fun f => (f.1, back f.2))), stack,
        rest⟩ := by
  induction fields generalizing reversed blank with
  | nil => exact absurd rfl present
  | cons f others ih =>
    obtain ⟨name, v⟩ := f
    have first : Rereads (write v) (back v) := each _ List.mem_cons_self
    cases others with
    | nil =>
      have value := field inner first name reversed stack (closing ++ '\x7d' :: rest) white
        (end_blank.ends (by simp) rest)
      have closed := Reaches.close_fields (back v) name reversed stack rest end_blank
      simpa [joined] using value.trans closed
    | cons g others =>
      let tail := between ++ (joined between
        ((g :: others).map fun f => fieldText gap f.1 (write f.2)) ++ (closing ++ '\x7d' :: rest))
      have value := field inner first name reversed stack (',' :: tail) white
        (blank_nil.ends (by simp) tail)
      have later := ih (fun i here => each i (List.mem_cons_of_mem _ here)) (by simp)
        ((name, back v) :: reversed) between apart
      have next := Reaches.next_field blank_nil later
      have whole := value.trans next
      simpa [tail, joined] using whole

theorem starts_joined {text : List Char} {texts : List (List Char)} {c : Char} {cs : List Char}
    (first : text = c :: cs) : ∃ ds, joined between (text :: texts) = c :: ds := by
  subst first
  cases texts with
  | nil => exact ⟨cs, rfl⟩
  | cons next texts => exact ⟨_, rfl⟩

theorem array (write : Json → List Char) (back : Json → Json) (start_blank : Blank opening)
    (apart : Blank between) (end_blank : Blank closing) {items : List Json}
    (each : ∀ j ∈ items, Rereads (write j) (back j)) (present : items ≠ []) :
    Rereads ('[' :: (opening ++ (joined between (items.map write) ++ (closing ++ [']']))))
      (.array (items.map back)) := by
  refine ⟨⟨_, _, rfl, rfl, by decide⟩, ?_⟩
  intro stack blank rest white ends
  have inside := Rereads.items apart end_blank each present [] stack [] rest blank_nil
  obtain ⟨j, others, rfl⟩ := List.exists_cons_of_ne_nil present
  obtain ⟨c, cs, starts, solid, opens⟩ := (each j List.mem_cons_self).starts
  obtain ⟨ds, first⟩ : ∃ ds, joined between (write j :: others.map write) = c :: ds :=
    starts_joined starts
  rw [List.map_cons, List.nil_append, first] at inside
  rw [List.map_cons, first]
  let body := c :: (ds ++ (closing ++ ']' :: rest))
  have opened : Reaches ⟨.before, stack, blank ++ '[' :: (opening ++ body)⟩
      ⟨.before, .items [] :: stack, body⟩ :=
    Reaches.of_value? white rfl (Reader.value?_items start_blank solid opens) (by simp)
  simpa [body] using opened.trans inside

theorem empty_array : Rereads ['[', ']'] (.array []) :=
  of_value? rfl rfl (by decide) fun _ _ _ => rfl

theorem object (write : Json → List Char) (back : Json → Json) (start_blank : Blank opening)
    (apart : Blank between) (inner : Blank gap) (end_blank : Blank closing)
    {fields : List (String × Json)} (each : ∀ f ∈ fields, Rereads (write f.2) (back f.2))
    (present : fields ≠ []) :
    Rereads
      ('\x7b' :: (opening ++ (joined between (fields.map fun f => fieldText gap f.1 (write f.2)) ++
        (closing ++ ['\x7d']))))
      (.object (fields.map fun f => (f.1, back f.2))) := by
  refine ⟨⟨_, _, rfl, rfl, by decide⟩, ?_⟩
  intro stack blank rest white ends
  have inside := Rereads.fields apart inner end_blank each present [] stack [] rest blank_nil
  obtain ⟨f, others, rfl⟩ := List.exists_cons_of_ne_nil present
  have starts : fieldText gap f.1 (write f.2) =
      '"' :: (f.1.toList.flatMap escape ++ '"' :: ':' :: (gap ++ write f.2)) := by
    simp [fieldText, quote]
  obtain ⟨ds, first⟩ : ∃ ds, joined between (fieldText gap f.1 (write f.2) ::
      others.map fun f => fieldText gap f.1 (write f.2)) = '"' :: ds := starts_joined starts
  rw [List.nil_append, List.map_cons, first] at inside
  rw [List.map_cons, first]
  obtain ⟨s, named, shorter, reaches⟩ := inside
  let body := '"' :: (ds ++ (closing ++ '\x7d' :: rest))
  have opened : Reaches ⟨.before, stack, blank ++ '\x7b' :: (opening ++ body)⟩ s := by
    refine Reaches.of_value? white rfl ?_ ?_
    · rw [Reader.value?_fields start_blank]
      exact named
    · have fits : s.rest.length ≤ body.length := shorter
      rw [List.length_append]
      omega
  simpa [body] using opened.trans reaches

theorem empty_object : Rereads ['\x7b', '\x7d'] (.object []) :=
  of_value? rfl rfl (by decide) fun _ _ _ => rfl

end Rereads

/-! Values are read as what was written, but for their reals. -/

def readBack? (x : Float) : Option Float := (read? (scalarText (.real x))).bind number?

mutual

def reread (back : Float → Option Float) : Json → Json
  | real x => (back x).elim unreadable real
  | array items => array (rereadItems back items)
  | object fields => object (rereadFields back fields)
  | null => null
  | bool b => bool b
  | integer n => integer n
  | string s => string s
  | unreadable => unreadable

def rereadItems (back : Float → Option Float) : List Json → List Json
  | [] => []
  | item :: rest => reread back item :: rereadItems back rest

def rereadFields (back : Float → Option Float) : List (String × Json) → List (String × Json)
  | [] => []
  | (name, value) :: rest => (name, reread back value) :: rereadFields back rest

end

section Reread

variable (back : Float → Option Float)

theorem rereadItems_eq_map (items : List Json) :
    rereadItems back items = items.map (reread back) := by
  induction items with
  | nil => rfl
  | cons item items ih => rw [rereadItems, ih, List.map_cons]

theorem rereadFields_eq_map (fields : List (String × Json)) :
    rereadFields back fields = fields.map fun f => (f.1, reread back f.2) := by
  induction fields with
  | nil => rfl
  | cons f fields ih =>
    obtain ⟨name, value⟩ := f
    rw [rereadFields, ih, List.map_cons]

end Reread

theorem Exact.reread_eq (back : Float → Option Float) {j : Json} (exact : Exact j) :
    reread back j = j := by
  induction exact with
  | array each ih =>
    rw [reread, rereadItems_eq_map, List.map_congr_left ih, List.map_id']
  | object each ih =>
    have same := List.map_congr_left fun f here => congrArg (Prod.mk f.1) (ih f here)
    rw [reread, rereadFields_eq_map, same, List.map_id']
  | _ => rfl

theorem Exact.sound {j : Json} (exact : Exact j) : Sound false j := by
  induction exact with
  | null => exact .null
  | bool b => exact .bool b
  | integer fits => exact .integer fits
  | string s => exact .string s
  | array _ ih => exact .array ih
  | object _ ih => exact .object ih

namespace Rereads

theorem real {x : Float} (finite : x.isFinite = true) :
    Rereads (scalarText (.real x)).toList (reread readBack? (.real x)) := by
  obtain ⟨v, kind, ⟨c, cs, spelled, number⟩, read⟩ := takeNumber?_real finite
  have rereads : Rereads (scalarText (.real x)).toList v := of_takeNumber? spelled number read
  have value := rereads.read?_eq
  rw [String.ofList_toList] at value
  have back : readBack? x = v.number? := by
    rw [readBack?, value, Option.bind_some]
  rw [reread, back]
  obtain ⟨y, rfl⟩ | rfl := kind
  · exact rereads
  · exact rereads

end Rereads

/-! The text on one line. -/

theorem toList_compactItems (items : List Json) :
    (compactItems items).toList = joined [] (items.map fun j => (compact j).toList) := by
  induction items with
  | nil => rfl
  | cons item items ih =>
    cases items with
    | nil => simp [compactItems, joined]
    | cons next items =>
      rw [compactItems, String.toList_append, ih]
      · simp [joined]
      · simp

theorem toList_compactFields (fields : List (String × Json)) :
    (compactFields fields).toList =
      joined [] (fields.map fun f => fieldText [] f.1 (compact f.2).toList) := by
  induction fields with
  | nil => rfl
  | cons f fields ih =>
    obtain ⟨name, value⟩ := f
    cases fields with
    | nil => simp [compactFields, joined, fieldText]
    | cons next fields =>
      rw [compactFields, String.toList_append, ih]
      · simp [joined, fieldText]
      · simp

theorem Sound.rereads_compact {j : Json} (sound : Sound false j) :
    Rereads (compact j).toList (reread readBack? j) := by
  induction sound with
  | null => exact .null
  | bool b => exact .bool b
  | integer fits => exact .integer fits
  | real finite => exact .real finite
  | string s => exact .string s
  | unreadable allowed => cases allowed
  | @array items _ ih =>
    cases items with
    | nil => exact .empty_array
    | cons item items =>
      have members := Rereads.array (fun j => (compact j).toList) (reread readBack?) blank_nil
        blank_nil blank_nil ih (by simp)
      simpa [compact, toList_compactItems, reread, rereadItems_eq_map] using members
  | @object fields _ ih =>
    cases fields with
    | nil => exact .empty_object
    | cons f fields =>
      have members := Rereads.object (fun j => (compact j).toList) (reread readBack?) blank_nil
        blank_nil blank_nil blank_nil ih (by simp)
      simpa [compact, toList_compactFields, reread, rereadFields_eq_map] using members

/-! The text over several lines. -/

theorem toList_prettyItems (depth : Nat) (items : List Json) :
    (prettyItems depth items).toList =
      joined (newLine depth).toList (items.map fun j => (prettyAt depth j).toList) := by
  induction items with
  | nil => rfl
  | cons item items ih =>
    cases items with
    | nil => simp [prettyItems, joined]
    | cons next items =>
      rw [prettyItems, String.toList_append, ih]
      · simp [joined]
      · simp

theorem toList_prettyFields (depth : Nat) (fields : List (String × Json)) :
    (prettyFields depth fields).toList = joined (newLine depth).toList
      (fields.map fun f => fieldText [' '] f.1 (prettyAt depth f.2).toList) := by
  induction fields with
  | nil => rfl
  | cons f fields ih =>
    obtain ⟨name, value⟩ := f
    cases fields with
    | nil => simp [prettyFields, joined, fieldText]
    | cons next fields =>
      rw [prettyFields, String.toList_append, ih]
      · simp [joined, fieldText]
      · simp

theorem Sound.rereads_prettyAt {j : Json} (sound : Sound false j) (depth : Nat) :
    Rereads (prettyAt depth j).toList (reread readBack? j) := by
  induction sound generalizing depth with
  | null => exact .null
  | bool b => exact .bool b
  | integer fits => exact .integer fits
  | real finite => exact .real finite
  | string s => exact .string s
  | unreadable allowed => cases allowed
  | @array items _ ih =>
    cases items with
    | nil =>
      rw [prettyAt]
      exact .empty_array
    | cons item items =>
      have inner := blank_newLine (depth + 1)
      have members := Rereads.array (fun j => (prettyAt (depth + 1) j).toList) (reread readBack?)
        inner inner (blank_newLine depth) (fun j here => ih j here (depth + 1)) (by simp)
      simpa [prettyAt, toList_prettyItems, reread, rereadItems_eq_map] using members
  | @object fields _ ih =>
    cases fields with
    | nil =>
      rw [prettyAt]
      exact .empty_object
    | cons f fields =>
      have inner := blank_newLine (depth + 1)
      have members := Rereads.object (fun j => (prettyAt (depth + 1) j).toList) (reread readBack?)
        inner inner blank_space (blank_newLine depth) (fun f here => ih f here (depth + 1))
        (by simp)
      simpa [prettyAt, toList_prettyFields, reread, rereadFields_eq_map] using members

theorem read?_compact {j : Json} (sound : Sound false j) :
    read? j.compact = some (reread readBack? j) := by
  have read := sound.rereads_compact.read?_eq
  rwa [String.ofList_toList] at read

theorem read?_pretty_of_sound {j : Json} (sound : Sound false j) :
    read? j.pretty = some (reread readBack? j) := by
  have read := (sound.rereads_prettyAt 0).read?_eq
  rwa [String.ofList_toList] at read

theorem read?_pretty {j : Json} (exact : Exact j) : read? j.pretty = some j := by
  rw [read?_pretty_of_sound exact.sound, exact.reread_eq]

end Storyline.Json

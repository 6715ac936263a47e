import ContractAtlas.Json.Fields
import ContractAtlas.Proofs.Json.Value

/-!
# Laws of the field readers

What the readers of known and of preserved fields do on the fields of a written object. A known
field is read from the value that the object holds under its name, and the preserved fields come
back as they are if they are in the state in which reading leaves them (`Preserved`).
-/

namespace ContractAtlas.Json

open SortedFields

/-- The written forms of fields, by name. -/
def writtenByName (fields : List (String × Json)) : List (String × Written) :=
  fields.map fun field => (field.1, field.2.written)

/-- Fields are written one by one. -/
theorem writtenByName_append (first second : List (String × Json)) :
    writtenByName (first ++ second) = writtenByName first ++ writtenByName second :=
  List.map_append ..

/-- Writing fields keeps their names. -/
@[simp] theorem names_writtenByName (fields : List (String × Json)) :
    names (writtenByName fields) = names fields := by
  simp [names, writtenByName]

/-- A field that is found among the fields is found as written among what is written. -/
theorem find?_writtenByName (name : String) (fields : List (String × Json)) :
    find? name (writtenByName fields) = (find? name fields).map written := by
  induction fields with
  | nil => rfl
  | cons field later inductionHypothesis =>
      have first : writtenByName (field :: later) =
          (field.1, field.2.written) :: writtenByName later := rfl
      rw [first, find?_cons, find?_cons, inductionHypothesis]
      split <;> rfl

namespace Written

/-- Fields are named exactly when each of them has a name that can be read. -/
theorem namedFields?_eq_some_iff {fields : List (Option String × Written)}
    {named : List (String × Written)} :
    namedFields? fields = some named ↔
      fields = named.map fun field => (some field.1, field.2) := by
  induction fields generalizing named with
  | nil => cases named <;> simp [namedFields?]
  | cons field later inductionHypothesis =>
      obtain ⟨name, item⟩ := field
      cases named with
      | nil => simp [namedFields?, Option.bind_eq_some_iff]
      | cons first others =>
          simp only [namedFields?, Option.bind_eq_bind, Option.bind_eq_some_iff,
            inductionHypothesis, List.map_cons, List.cons.injEq, Prod.mk.injEq]
          constructor
          · rintro ⟨text, rfl, rest, rfl, same⟩
            cases same
            exact ⟨⟨rfl, rfl⟩, rfl⟩
          · rintro ⟨⟨rfl, rfl⟩, rfl⟩
            exact ⟨_, rfl, _, rfl, rfl⟩

/-- An object that is written is read as the fields that it has. -/
@[simp] theorem object?_written (fields : List (String × Json)) :
    object? (Json.object fields).written = some (writtenByName fields) := by
  rw [Json.written, object?, namedFields?_eq_some_iff, writtenFields_eq_map, writtenByName,
    List.map_map]
  rfl

/-- An array that is written is read as the items that it has. -/
@[simp] theorem array?_written (items : List Json) :
    array? (Json.array items).written = some (items.map Json.written) := by
  rw [Json.written, array?, writtenItems_eq_map]

/-- Whether a written field is read as a field, in a place that has `room` levels of nesting
left. -/
def ReadAs (room : Nat) (field : String × Written) (value : String × Json) : Prop :=
  field.1 = value.1 ∧ value? room field.2 = some value.2

/-- The value of a written object is the sorted form of its fields, read in order. -/
theorem value?_object_eq_some_iff {room : Nat} {fields : List (String × Written)}
    {source : Written} (named : source.object? = some fields) {value : Json} :
    value? room source = some value ↔
      1 < room ∧ ∃ values, List.Forall₂ (ReadAs (room - 1)) fields values ∧
        value = .object (ofList values) := by
  cases source with
  | object sources =>
      obtain rfl := namedFields?_eq_some_iff.mp named
      rw [value?]
      split
      · rename_i shallow
        simp [Nat.not_lt.mpr shallow]
      · rename_i deep
        simp only [Option.map_eq_some_iff, fieldValues?_eq_some_iff, List.forall₂_map_left_iff,
          Denotes, Option.some.injEq, Nat.lt_of_not_le deep, true_and]
        constructor
        · rintro ⟨values, parts, same⟩
          exact ⟨values, parts, same.symm⟩
        · rintro ⟨values, parts, same⟩
          exact ⟨values, parts, same.symm⟩
  | _ => cases named

/-! ## Known fields -/

/-- A field that is read at most once is the only one with its names. -/
theorem eq_of_single? {texts : List String} {fields : List (String × Written)}
    {found : Option Written} (single : single? texts fields = some found)
    {field : String × Written} (member : field ∈ fields) (named : field.1 ∈ texts) :
    found = some field.2 := by
  have kept : field ∈ fields.filter fun field => texts.contains field.1 := by
    simp [member, named]
  unfold single? at single
  split at single
  · rename_i none
    rw [none] at kept
    cases kept
  · rename_i only unique
    rw [unique, List.mem_singleton] at kept
    rw [kept]
    exact (Option.some.inj single).symm
  · cases single

/-- What is read at most once, and found, is the value of a field. -/
theorem exists_mem_of_single? {texts : List String} {fields : List (String × Written)}
    {source : Written} (single : single? texts fields = some (some source)) :
    ∃ name ∈ texts, (name, source) ∈ fields := by
  unfold single? at single
  split at single
  · cases single
  · rename_i only unique
    have kept : only ∈ fields.filter fun field => texts.contains field.1 := by
      rw [unique]
      exact List.mem_singleton_self only
    obtain ⟨member, named⟩ := List.mem_filter.mp kept
    obtain rfl := Option.some.inj (Option.some.inj single)
    exact ⟨only.1, by simpa using named, member⟩
  · cases single

/-- Among fields without repeated names the only field with a name is the one found under it. -/
theorem single?_of_nodup {fields : List (String × Written)} (distinct : (names fields).Nodup)
    (name : String) : single? [name] fields = some (find? name fields) := by
  induction fields with
  | nil => rfl
  | cons field later inductionHypothesis =>
      obtain ⟨fresh, distinctLater⟩ := List.nodup_cons.mp distinct
      by_cases same : field.1 = name
      · have others : later.filter (fun field => [name].contains field.1) = [] := by
          refine List.filter_eq_nil_iff.mpr fun other member => ?_
          have different : other.1 ≠ name := by
            rintro rfl
            exact fresh (List.mem_map.mpr ⟨other, member, same.symm⟩)
          simpa using different
        rw [single?, List.filter_cons_of_pos (by simp [same]), others, find?_cons, if_pos same]
      · have skipped : single? [name] (field :: later) = single? [name] later := by
          rw [single?, List.filter_cons_of_neg (by simp [same]), single?]
        rw [skipped, inductionHypothesis distinctLater, find?_cons, if_neg same]

/-- A field is read exactly when no other of its names is present and what it holds, if anything,
can be read. -/
theorem field?_eq_some_iff {α : Type} {fields : List (String × Written)} {texts : List String}
    {absent : α} {read : Written → Option α} {value : α} :
    field? fields texts absent read = some value ↔
      ∃ found, single? texts fields = some found ∧ optional? absent read found = some value := by
  simp [field?, Option.bind_eq_some_iff]

/-- A nullable part that has a value is read from something. -/
theorem exists_of_nullable? {α : Type} {fields : List (String × Written)} {texts : List String}
    {read : Written → Option α} {value : α}
    (present : field? fields texts none (nullable? read) = some (some value)) :
    ∃ source, read source = some value := by
  obtain ⟨found, _, readFound⟩ := field?_eq_some_iff.mp present
  cases found with
  | none => cases readFound
  | some source =>
      cases source with
      | null => cases readFound
      | _ => exact ⟨_, by simpa [optional?, nullable?] using readFound⟩

/-- Every item of a known list is read from something. -/
theorem exists_of_mem_items {α : Type} {fields : List (String × Written)} {texts : List String}
    {read : Written → Option α} {values : List α}
    (readItems : field? fields texts [] (fun items => do (<- items.array?).mapM read) =
      some values) {value : α} (member : value ∈ values) :
    ∃ source, read source = some value := by
  obtain ⟨found, _, readFound⟩ := field?_eq_some_iff.mp readItems
  cases found with
  | none =>
      cases readFound
      cases member
  | some source =>
      simp only [optional?, Option.bind_eq_bind, Option.bind_eq_some_iff, mapM_eq_some_iff]
        at readFound
      obtain ⟨items, _, parts⟩ := readFound
      obtain ⟨item, _, readItem⟩ := exists_of_mem_forall₂ parts member
      exact ⟨item, readItem⟩

/-- A list whose items are read from what they are written as is read from the array of these. -/
theorem items?_written {α : Type} {write : α → Json} {read : Written → Option α} {values : List α}
    (reads : ∀ value ∈ values, read (write value).written = some value) :
    (do (<- (Json.array (values.map write)).written.array?).mapM read) = some values := by
  rw [array?_written, List.map_map]
  refine mapM_eq_some_iff.mpr ?_
  rw [List.forall₂_map_left_iff]
  exact List.forall₂_same.mpr reads

/-- A list of texts that is written is read back. -/
theorem texts?_written (texts : List String) :
    texts? (Json.strings texts).written = some texts :=
  items?_written fun _ _ => rfl

/-! ## Preserved fields -/

/-- The state in which reading leaves the fields that it preserves, in a place that has `room`
levels of nesting left. -/
structure Preserved (room : Nat) (known : List String) (extra : List (String × Json)) : Prop where
  sorted : Sorted extra
  unknown : ∀ field ∈ extra, field.1 ∉ known
  readable : ∀ field ∈ extra, value? room field.2.written = some field.2

/-- The unknown fields of an object, read in order. -/
theorem extra?_eq_some_iff {room : Nat} {known : List String} {fields : List (String × Written)}
    {extra : List (String × Json)} :
    extra? room known fields = some extra ↔
      ∃ values, List.Forall₂ (ReadAs room)
        (fields.filter fun field => !known.contains field.1) values ∧ extra = ofList values := by
  have readField : ∀ (field : String × Written) (value : String × Json),
      ((field.2.value? room).map fun value => (field.1, value)) = some value ↔
        ReadAs room field value := by
    intro field value
    rw [Option.map_eq_some_iff]
    constructor
    · rintro ⟨read, holds, rfl⟩
      exact ⟨rfl, holds⟩
    · rintro ⟨same, holds⟩
      exact ⟨value.2, holds, Prod.ext same rfl⟩
  simp only [extra?, Option.bind_eq_bind, Option.bind_eq_some_iff, mapM_eq_some_iff, readField]
  constructor
  · rintro ⟨values, parts, same⟩
    exact ⟨values, parts, (Option.some.inj same).symm⟩
  · rintro ⟨values, parts, same⟩
    exact ⟨values, parts, congrArg some same.symm⟩

/-- Reading after a filter on names is a filter after reading. -/
theorem eq_filter_of_forall₂ {room : Nat} (passes : String → Bool)
    {fields : List (String × Written)} {kept values : List (String × Json)}
    (parts : List.Forall₂ (ReadAs room) fields values)
    (keptParts : List.Forall₂ (ReadAs room) (fields.filter fun field => passes field.1) kept) :
    kept = values.filter fun field => passes field.1 := by
  induction parts generalizing kept with
  | nil =>
      cases keptParts
      rfl
  | @cons field value _ _ first _ inductionHypothesis =>
      cases passed : passes field.1 with
      | true =>
          simp only [List.filter_cons, passed, if_true] at keptParts
          simp only [List.filter_cons, ← first.1, passed, if_true]
          cases keptParts with
          | @cons _ keptValue _ _ keptFirst keptLater =>
              have same : keptValue = value := Prod.ext (keptFirst.1.symm.trans first.1)
                (Option.some.inj (keptFirst.2.symm.trans first.2))
              rw [same, inductionHypothesis keptLater]
      | false =>
          simp only [List.filter_cons, passed, Bool.false_eq_true, if_false] at keptParts
          simp only [List.filter_cons, ← first.1, passed, Bool.false_eq_true, if_false]
          exact inductionHypothesis keptParts

/-- A field that is not known is preserved with the value that the object has under its name. -/
theorem find?_extra? {room : Nat} {known : List String} {fields : List (String × Written)}
    {extra values : List (String × Json)} (read : extra? room known fields = some extra)
    (parts : List.Forall₂ (ReadAs room) fields values) {name : String} (unknown : name ∉ known) :
    find? name extra = find? name (ofList values) := by
  obtain ⟨kept, keptParts, rfl⟩ := extra?_eq_some_iff.mp read
  have filtered := eq_filter_of_forall₂ (fun text => !known.contains text) parts keptParts
  -- The last field of a name counts on both sides, and the filter drops none of an unknown name.
  rw [filtered, find?_ofList, find?_ofList, ← List.filter_reverse]
  exact find?_filter (by simp [unknown]) values.reverse

/-- What is found under a name with which at most one field is read is the value of that field. -/
theorem exists_of_find? {room : Nat} {texts : List String} {fields : List (String × Written)}
    {values : List (String × Json)} {found : Option Written}
    (single : single? texts fields = some found)
    (parts : List.Forall₂ (ReadAs room) fields values) {name : String} {value : Json}
    (present : find? name (ofList values) = some value) (named : name ∈ texts) :
    ∃ source, found = some source ∧ value? room source = some value := by
  rw [find?_ofList] at present
  obtain ⟨field, member, same, readField⟩ :=
    exists_of_mem_forall₂ parts (List.mem_reverse.mp (mem_of_find? present))
  exact ⟨field.2, eq_of_single? single member (same ▸ named), readField⟩

/-- Reading leaves the fields that it does not know in the state in which they are preserved. -/
theorem preserved_of_extra? {room : Nat} {known : List String} {fields : List (String × Written)}
    {extra : List (String × Json)} (read : extra? room known fields = some extra) :
    Preserved room known extra := by
  obtain ⟨values, parts, rfl⟩ := extra?_eq_some_iff.mp read
  refine ⟨sorted_ofList values, fun field member => ?_, fun field member => ?_⟩
  · obtain ⟨source, inside, same, _⟩ := exists_of_mem_forall₂ parts (mem_of_mem_ofList member)
    rw [← same]
    simpa using (List.mem_filter.mp inside).2
  · obtain ⟨source, _, _, readField⟩ := exists_of_mem_forall₂ parts (mem_of_mem_ofList member)
    exact value?_written readField

section

variable {room : Nat} {knownNames : List String} {known extra : List (String × Json)}

/-- A known part and preserved fields have no name in common and none twice. -/
theorem nodup_names_append (preserved : Preserved room knownNames extra)
    (distinct : knownNames.Nodup) (covered : (names known).Sublist knownNames) :
    (names (known ++ extra)).Nodup := by
  have disjoint : ∀ text ∈ names known, ∀ other ∈ names extra, text ≠ other := by
    rintro text inKnown other inExtra rfl
    obtain ⟨field, member, rfl⟩ := List.mem_map.mp inExtra
    exact preserved.unknown field member (covered.subset inKnown)
  rw [names, List.map_append, List.nodup_append]
  exact ⟨distinct.sublist covered, preserved.sorted.nodup, disjoint⟩

/-- A known name is looked up in the known part only. -/
theorem find?_append_of_known (preserved : Preserved room knownNames extra) {name : String}
    (isKnown : name ∈ knownNames) : find? name (known ++ extra) = find? name known := by
  have missing : find? name extra = none := by
    refine find?_eq_none_iff.mpr fun inExtra => ?_
    obtain ⟨field, member, rfl⟩ := List.mem_map.mp inExtra
    exact preserved.unknown field member isKnown
  rw [find?_append, missing, Option.or_none]

/-- An unknown name is looked up in the preserved fields only. -/
theorem find?_append_of_unknown (covered : (names known).Sublist knownNames) {name : String}
    (unknown : name ∉ knownNames) : find? name (known ++ extra) = find? name extra := by
  rw [find?_append, find?_eq_none_iff.mpr fun inKnown => unknown (covered.subset inKnown),
    Option.none_or]

/-- A known field of an object is read from the value under its name among the known ones. -/
theorem field?_written (preserved : Preserved room knownNames extra)
    (distinct : knownNames.Nodup) (covered : (names known).Sublist knownNames) {name : String}
    (isKnown : name ∈ knownNames) {α : Type} (absent : α) (read : Written → Option α) :
    field? (writtenByName (known ++ extra)) [name] absent read =
      optional? absent read ((find? name known).map Json.written) := by
  have unrepeated : (names (writtenByName (known ++ extra))).Nodup := by
    rw [names_writtenByName]
    exact nodup_names_append preserved distinct covered
  rw [field?, single?_of_nodup unrepeated, find?_writtenByName,
    find?_append_of_known preserved isKnown]
  rfl

/-- Preserved fields behind known ones are preserved. -/
theorem extra?_written (preserved : Preserved room knownNames extra)
    (covered : (names known).Sublist knownNames) :
    extra? room knownNames (writtenByName (known ++ extra)) = some extra := by
  have dropped : (writtenByName known).filter (fun field => !knownNames.contains field.1) = [] := by
    refine List.filter_eq_nil_iff.mpr fun field member => ?_
    obtain ⟨source, inside, rfl⟩ := List.mem_map.mp member
    simpa using covered.subset (List.mem_map_of_mem inside)
  have kept : (writtenByName extra).filter (fun field => !knownNames.contains field.1) =
      writtenByName extra := by
    refine List.filter_eq_self.mpr fun field member => ?_
    obtain ⟨source, inside, rfl⟩ := List.mem_map.mp member
    simpa using preserved.unknown source inside
  refine extra?_eq_some_iff.mpr ⟨extra, ?_, (ofList_eq_self preserved.sorted).symm⟩
  rw [writtenByName_append, List.filter_append, dropped, kept, List.nil_append, writtenByName,
    List.forall₂_map_left_iff]
  exact List.forall₂_same.mpr fun field member => ⟨rfl, preserved.readable field member⟩

end

end Written

end ContractAtlas.Json

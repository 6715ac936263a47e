import Mathlib
import ContractAtlas.Json.SortedFields

/-!
# Laws of sorted fields

Setting a field keeps the names in ascending order and changes what is found under its own name
only. Fields that are sorted already are their own sorted form (`ofList_eq_self`), and what the
sorted form of any pairs holds under a name is the last value that the pairs give it
(`find?_ofList`).
-/

namespace ContractAtlas.Json.SortedFields

variable {α : Type}

/-! ## What is found -/

@[simp] theorem find?_nil (name : String) : find? name ([] : List (String × α)) = none := rfl

/-- Looking up a name asks the first field and then the later ones. -/
theorem find?_cons (name : String) (field : String × α) (later : List (String × α)) :
    find? name (field :: later) = if field.1 = name then some field.2 else find? name later := rfl

/-- What is found is a field of the list. -/
theorem mem_of_find? {name : String} {value : α} {fields : List (String × α)}
    (found : find? name fields = some value) : (name, value) ∈ fields := by
  induction fields with
  | nil => cases found
  | cons field later inductionHypothesis =>
      rw [find?_cons] at found
      split at found
      · rename_i same
        cases found
        rw [← same]
        exact List.mem_cons_self
      · exact List.mem_cons_of_mem field (inductionHypothesis found)

/-- Nothing is found exactly for the names that the fields do not have. -/
theorem find?_eq_none_iff {name : String} {fields : List (String × α)} :
    find? name fields = none ↔ name ∉ names fields := by
  induction fields with
  | nil => simp [names]
  | cons field later inductionHypothesis =>
      rw [find?_cons]
      by_cases same : field.1 = name
      · simp [names, same]
      · simp [names, same, Ne.symm same, inductionHypothesis]

/-- Looking up a name in two lists asks the first and then the second. -/
theorem find?_append (name : String) (first second : List (String × α)) :
    find? name (first ++ second) = (find? name first).or (find? name second) := by
  induction first with
  | nil => simp
  | cons field later inductionHypothesis =>
      rw [List.cons_append, find?_cons, find?_cons, inductionHypothesis]
      split <;> rfl

/-- A filter that lets every field of a name pass does not change what is found under it. -/
theorem find?_filter {name : String} {passes : String × α → Bool}
    (always : ∀ value, passes (name, value) = true) (fields : List (String × α)) :
    find? name (fields.filter passes) = find? name fields := by
  induction fields with
  | nil => rfl
  | cons field later inductionHypothesis =>
      obtain ⟨fieldName, value⟩ := field
      rw [List.filter_cons, find?_cons]
      split
      · rw [find?_cons, inductionHypothesis]
      · rename_i stopped
        have other : fieldName ≠ name := by
          rintro rfl
          exact stopped (always value)
        rw [if_neg other, inductionHypothesis]

/-- Among fields without repeated names exactly the fields themselves are found. -/
theorem find?_eq_some_iff {fields : List (String × α)} (distinct : (names fields).Nodup)
    {name : String} {value : α} : find? name fields = some value ↔ (name, value) ∈ fields := by
  refine ⟨mem_of_find?, fun member => ?_⟩
  induction fields with
  | nil => cases member
  | cons field later inductionHypothesis =>
      obtain ⟨fresh, distinctLater⟩ := List.nodup_cons.mp distinct
      rw [find?_cons]
      rcases List.mem_cons.mp member with rfl | member
      · simp
      · have other : field.1 ≠ name := by
          rintro rfl
          exact fresh (List.mem_map.mpr ⟨_, member, rfl⟩)
        rw [if_neg other]
        exact inductionHypothesis distinctLater member

/-- Inserting a field changes what is found under its name and nothing else. -/
theorem find?_insert (name other : String) (value : α) (fields : List (String × α)) :
    find? other (insert name value fields) =
      if name = other then some value else find? other fields := by
  induction fields with
  | nil => rfl
  | cons field later inductionHypothesis =>
      rw [insert]
      split
      · rw [find?_cons]
      split
      · rename_i same
        rw [find?_cons, find?_cons, ← same]
        split <;> rfl
      · rename_i _ different
        rw [find?_cons, find?_cons, inductionHypothesis]
        split
        · rename_i same
          rw [if_neg (by rintro rfl; exact different same.symm)]
        · rfl

/-- Among updates of one name the last one wins, and a name without updates keeps its field. -/
theorem find?_insertAll (name : String) (fields updates : List (String × α)) :
    find? name (insertAll fields updates) =
      (find? name updates.reverse).or (find? name fields) := by
  induction updates generalizing fields with
  | nil => simp [insertAll]
  | cons update later inductionHypothesis =>
      have next : insertAll fields (update :: later) =
          insertAll (insert update.1 update.2 fields) later := rfl
      rw [next, inductionHypothesis, find?_insert, List.reverse_cons, find?_append, find?_cons,
        find?_nil]
      cases find? name later.reverse with
      | some _ => rfl
      | none => split <;> rfl

/-- The sorted form of pairs holds under a name the last value that the pairs give it. -/
theorem find?_ofList (name : String) (pairs : List (String × α)) :
    find? name (ofList pairs) = find? name pairs.reverse := by
  rw [ofList, find?_insertAll]
  simp

/-- The sorted form of pairs without repeated names holds what the pairs hold. -/
theorem find?_ofList_of_nodup {pairs : List (String × α)} (distinct : (names pairs).Nodup)
    (name : String) : find? name (ofList pairs) = find? name pairs := by
  have reversed : (names pairs.reverse).Nodup := by
    simpa [names, List.map_reverse] using distinct
  rw [find?_ofList]
  apply Option.ext
  intro value
  rw [find?_eq_some_iff reversed, find?_eq_some_iff distinct, List.mem_reverse]

/-! ## Order -/

/-- Sorted fields have no name twice. -/
theorem Sorted.nodup {fields : List (String × α)} (sorted : Sorted fields) :
    (names fields).Nodup :=
  sorted.imp fun less => ne_of_lt less

/-- Sorted fields stay sorted without the first. -/
theorem Sorted.tail {field : String × α} {later : List (String × α)}
    (sorted : Sorted (field :: later)) : Sorted later :=
  (List.pairwise_cons.mp sorted).2

/-- A field after an insertion is the inserted one or one from before. -/
theorem mem_insert {name : String} {value : α} {field : String × α} {fields : List (String × α)}
    (member : field ∈ insert name value fields) : field = (name, value) ∨ field ∈ fields := by
  induction fields with
  | nil => exact .inl (List.mem_singleton.mp member)
  | cons first later inductionHypothesis =>
      rw [insert] at member
      split at member
      · exact List.mem_cons.mp member
      split at member
      · exact (List.mem_cons.mp member).imp_right (List.mem_cons_of_mem first)
      · rcases List.mem_cons.mp member with rfl | member
        · exact .inr List.mem_cons_self
        · exact (inductionHypothesis member).imp_right (List.mem_cons_of_mem first)

/-- Inserting a field keeps the order. -/
theorem Sorted.insert {fields : List (String × α)} (sorted : Sorted fields) (name : String)
    (value : α) : Sorted (insert name value fields) := by
  induction fields with
  | nil => exact List.pairwise_singleton _ _
  | cons first later inductionHypothesis =>
      obtain ⟨below, _⟩ := List.pairwise_cons.mp sorted
      have belowLater : ∀ field ∈ later, first.1 < field.1 := fun field member =>
        below field.1 (List.mem_map_of_mem member)
      rw [SortedFields.insert]
      split
      · rename_i less
        refine List.pairwise_cons.mpr ⟨fun other member => ?_, sorted⟩
        rcases List.mem_cons.mp member with rfl | member
        · exact less
        · exact lt_trans less (below other member)
      split
      · rename_i same
        subst same
        exact List.pairwise_cons.mpr ⟨below, sorted.tail⟩
      · rename_i notLess different
        refine List.pairwise_cons.mpr ⟨fun other member => ?_, inductionHypothesis sorted.tail⟩
        obtain ⟨field, inserted, rfl⟩ := List.mem_map.mp member
        rcases mem_insert inserted with rfl | member
        · exact lt_of_le_of_ne (not_lt.mp notLess) (Ne.symm different)
        · exact belowLater field member

/-- Inserting fields keeps the order. -/
theorem Sorted.insertAll {fields : List (String × α)} (sorted : Sorted fields)
    (updates : List (String × α)) : Sorted (insertAll fields updates) := by
  induction updates generalizing fields with
  | nil => exact sorted
  | cons update later inductionHypothesis =>
      exact inductionHypothesis (sorted.insert update.1 update.2)

/-- There is nothing out of order in no fields. -/
theorem sorted_nil : Sorted ([] : List (String × α)) :=
  List.Pairwise.nil

/-- Fields collected from pairs are sorted. -/
theorem sorted_ofList (pairs : List (String × α)) : Sorted (ofList pairs) :=
  sorted_nil.insertAll pairs

/-- Collecting fields adds none that was not given. -/
theorem mem_of_mem_ofList {pairs : List (String × α)} {field : String × α}
    (member : field ∈ ofList pairs) : field ∈ pairs := by
  have found := (find?_eq_some_iff (sorted_ofList pairs).nodup).mpr member
  rw [find?_ofList] at found
  exact List.mem_reverse.mp (mem_of_find? found)

/-- A name above all others is set at the end. -/
theorem insert_eq_append {name : String} {fields : List (String × α)}
    (above : ∀ field ∈ fields, field.1 < name) (value : α) :
    insert name value fields = fields ++ [(name, value)] := by
  induction fields with
  | nil => rfl
  | cons first later inductionHypothesis =>
      have less := above first List.mem_cons_self
      rw [insert, if_neg (lt_asymm less), if_neg (ne_of_gt less), List.cons_append,
        inductionHypothesis fun field member => above field (List.mem_cons_of_mem first member)]

/-- Fields inserted in order after all others are appended. -/
theorem insertAll_eq_append {fields updates : List (String × α)}
    (sorted : Sorted (fields ++ updates)) : insertAll fields updates = fields ++ updates := by
  induction updates generalizing fields with
  | nil => simp [insertAll]
  | cons update later inductionHypothesis =>
      have above : ∀ field ∈ fields, field.1 < update.1 := by
        intro field member
        rw [Sorted, names, List.map_append, List.pairwise_append] at sorted
        exact sorted.2.2 field.1 (List.mem_map_of_mem member) update.1 List.mem_cons_self
      have next : insertAll fields (update :: later) =
          insertAll (insert update.1 update.2 fields) later := rfl
      rw [next, insert_eq_append above, inductionHypothesis]
      · simp
      · simpa using sorted

/-- Sorted fields are their own sorted form. -/
theorem ofList_eq_self {fields : List (String × α)} (sorted : Sorted fields) :
    ofList fields = fields := by
  have extended : Sorted ([] ++ fields) := sorted
  exact insertAll_eq_append extended

/-! ## Equality -/

/-- The names of fields are those that something is found under. -/
theorem mem_names_iff {name : String} {fields : List (String × α)} :
    name ∈ names fields ↔ (find? name fields).isSome = true := by
  rw [← not_iff_not, ← find?_eq_none_iff, Bool.not_eq_true, Option.isSome_eq_false_iff,
    Option.isNone_iff_eq_none]

/-- Inserting a field adds its name and no other. -/
theorem mem_names_insert {name other : String} {value : α} {fields : List (String × α)} :
    other ∈ names (insert name value fields) ↔ other = name ∨ other ∈ names fields := by
  rw [mem_names_iff, find?_insert]
  by_cases same : name = other
  · simp [same]
  · simp [same, Ne.symm same, mem_names_iff]

/-- Names in ascending order are determined by which names there are. -/
theorem names_eq_of_mem_iff {left right : List String} (leftSorted : left.Pairwise (· < ·))
    (rightSorted : right.Pairwise (· < ·)) (same : ∀ name, name ∈ left ↔ name ∈ right) :
    left = right :=
  List.Perm.eq_of_pairwise (fun _ _ _ _ less greater => absurd greater (lt_asymm less))
    leftSorted rightSorted <|
    (List.perm_ext_iff_of_nodup (leftSorted.imp fun less => ne_of_lt less)
      (rightSorted.imp fun less => ne_of_lt less)).mpr same

/-- Sorted fields are determined by what is found in them. -/
theorem Sorted.ext {left right : List (String × α)} (leftSorted : Sorted left)
    (rightSorted : Sorted right) (same : ∀ name, find? name left = find? name right) :
    left = right := by
  have sameNames : names left = names right :=
    names_eq_of_mem_iff leftSorted rightSorted fun name => by
      rw [mem_names_iff, mem_names_iff, same]
  induction left generalizing right with
  | nil =>
      cases right with
      | nil => rfl
      | cons field later => cases sameNames
  | cons field later inductionHypothesis =>
      cases right with
      | nil => cases sameNames
      | cons other others =>
          obtain ⟨sameName, sameLater⟩ := List.cons.inj sameNames
          have first := same field.1
          rw [find?_cons, find?_cons, if_pos rfl, if_pos sameName.symm] at first
          obtain rfl : field = other := Prod.ext sameName (Option.some.inj first)
          refine congrArg _ (inductionHypothesis leftSorted.tail rightSorted.tail ?_ sameLater)
          intro name
          by_cases here : field.1 = name
          · have notLeft := (List.nodup_cons.mp leftSorted.nodup).1
            have notRight := (List.nodup_cons.mp rightSorted.nodup).1
            rw [← here, find?_eq_none_iff.mpr notLeft, find?_eq_none_iff.mpr notRight]
          · have both := same name
            rwa [find?_cons, find?_cons, if_neg here, if_neg here] at both

/-! ## Distinct names -/

/-- The distinct names of texts come in ascending order. -/
theorem pairwise_distinctNames (texts : List String) : (distinctNames texts).Pairwise (· < ·) :=
  sorted_ofList (texts.map fun text => (text, ()))

/-- The distinct names of a list are its members. -/
theorem mem_distinctNames_iff {name : String} {texts : List String} :
    name ∈ distinctNames texts ↔ name ∈ texts := by
  rw [distinctNames, mem_names_iff, find?_ofList, ← mem_names_iff]
  simp [names]

/-! ## Setting a field again -/

/-- Inserting what is there already changes nothing. -/
theorem insert_eq_self {name : String} {value : α} {fields : List (String × α)}
    (sorted : Sorted fields) (found : find? name fields = some value) :
    insert name value fields = fields := by
  refine (sorted.insert name value).ext sorted fun other => ?_
  rw [find?_insert]
  split
  · rename_i same
    rw [← same, found]
  · rfl

/-- The later of two insertions under one name is the one that counts. -/
theorem insert_insert {name : String} {first second : α} {fields : List (String × α)}
    (sorted : Sorted fields) :
    insert name second (insert name first fields) = insert name second fields := by
  refine ((sorted.insert _ _).insert _ _).ext (sorted.insert _ _) fun other => ?_
  simp only [find?_insert]
  split <;> rfl

end ContractAtlas.Json.SortedFields

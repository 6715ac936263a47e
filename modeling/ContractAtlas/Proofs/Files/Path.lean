import ContractAtlas.Files.Path
import Mathlib.Data.List.Basic

/-!
# Laws of joined paths

Joining a name to a path that ends in a name puts one slash between the two and adds one component.
A name is what a directory entry can be called: it is not empty, has neither slash nor NUL, and is
not one of the two names that stand for another place.
-/

namespace ContractAtlas

/-- A text without the separator is its only part. -/
theorem Text.splitAllChars_of_not_mem {separator : Char} {characters : List Char}
    (absent : separator ∉ characters) : splitAllChars separator characters = [characters] := by
  induction characters with
  | nil => rfl
  | cons character later inductionHypothesis =>
      simp only [List.mem_cons, not_or] at absent
      rw [splitAllChars, if_neg (Ne.symm absent.1), inductionHypothesis absent.2]

/-- There is always a part, if only an empty one. -/
theorem Text.splitAllChars_ne_nil (separator : Char) (characters : List Char) :
    splitAllChars separator characters ≠ [] := by
  cases characters with
  | nil => simp [splitAllChars]
  | cons character later =>
      rw [splitAllChars]
      split
      · simp
      · split <;> simp

/-- A separator ends the pieces before it and starts those after it. -/
theorem Text.splitAllChars_append (separator : Char) (before after : List Char) :
    splitAllChars separator (before ++ separator :: after) =
      splitAllChars separator before ++ splitAllChars separator after := by
  induction before with
  | nil => simp [splitAllChars]
  | cons character later inductionHypothesis =>
      rw [List.cons_append, splitAllChars, splitAllChars, inductionHypothesis]
      by_cases same : character = separator
      · rw [if_pos same, if_pos same, List.cons_append]
      · rw [if_neg same, if_neg same]
        cases pieces : splitAllChars separator later with
        | nil => exact absurd pieces (splitAllChars_ne_nil separator later)
        | cons piece others => rfl

/-- The pieces between separators have none, and only characters of the whole. -/
theorem Text.of_mem_splitAllChars {separator : Char} {characters piece : List Char}
    (member : piece ∈ splitAllChars separator characters) :
    separator ∉ piece ∧ ∀ character ∈ piece, character ∈ characters := by
  induction characters generalizing piece with
  | nil =>
      obtain rfl : piece = [] := by simpa [splitAllChars] using member
      exact ⟨List.not_mem_nil, List.forall_mem_nil _⟩
  | cons first later inductionHypothesis =>
      have ofLater {piece : List Char} (inLater : piece ∈ splitAllChars separator later) :
          separator ∉ piece ∧ ∀ character ∈ piece, character ∈ first :: later :=
        ⟨(inductionHypothesis inLater).1, fun character inPiece =>
          List.mem_cons_of_mem _ ((inductionHypothesis inLater).2 character inPiece)⟩
      rw [splitAllChars] at member
      split at member
      · obtain rfl | inLater := List.mem_cons.mp member
        · exact ⟨List.not_mem_nil, List.forall_mem_nil _⟩
        · exact ofLater inLater
      · rename_i apart
        cases pieces : splitAllChars separator later with
        | nil => exact absurd pieces (splitAllChars_ne_nil separator later)
        | cons head others =>
            rw [pieces] at member ofLater
            obtain rfl | inLater := List.mem_cons.mp member
            · obtain ⟨absent, inWhole⟩ := ofLater List.mem_cons_self
              exact ⟨by simp [absent, Ne.symm apart], List.forall_mem_cons.mpr
                ⟨List.mem_cons_self, inWhole⟩⟩
            · exact ofLater (List.mem_cons_of_mem _ inLater)

namespace Path

/-- Whether a text can be the name of a directory entry, however long. -/
structure IsName (name : String) : Prop where
  nonempty : name ≠ ""
  notHere : name ≠ "."
  notAbove : name ≠ ".."
  noSlash : '/' ∉ name.toList
  noNul : '\x00' ∉ name.toList

instance (name : String) : Decidable (IsName name) :=
  decidable_of_iff (name ≠ "" ∧ name ≠ "." ∧ name ≠ ".." ∧ '/' ∉ name.toList ∧ '\x00' ∉ name.toList)
    ⟨fun ⟨nonempty, notHere, notAbove, noSlash, noNul⟩ =>
        ⟨nonempty, notHere, notAbove, noSlash, noNul⟩,
      fun ⟨nonempty, notHere, notAbove, noSlash, noNul⟩ =>
        ⟨nonempty, notHere, notAbove, noSlash, noNul⟩⟩

/-- Whether a path ends in a name or in dots, so that joining adds a slash. -/
structure IsOpen (path : Path) : Prop where
  nonempty : path.text ≠ ""
  noSlash : path.endsInSlash = false

/-- A name without a slash is no absolute path. -/
theorem isAbsolute_eq_false {name : String} (noSlash : '/' ∉ name.toList) :
    isAbsolute ⟨name⟩ = false := by
  rw [isAbsolute, decide_eq_false_iff_not]
  exact fun first => noSlash (List.mem_of_head? first)

/-- Joining a relative part to an open path puts a slash between them. -/
theorem join_eq_of_relative {path : Path} (isOpen : IsOpen path) {name : String}
    (relative : isAbsolute ⟨name⟩ = false) : path.join name = ⟨path.text ++ "/" ++ name⟩ := by
  have nonempty : path.text.isEmpty = false := by simpa using isOpen.nonempty
  simp [join, relative, nonempty, isOpen.noSlash]

/-- Joining a name to an open path puts a slash between them. -/
theorem join_eq {path : Path} (isOpen : IsOpen path) {name : String}
    (noSlash : '/' ∉ name.toList) : path.join name = ⟨path.text ++ "/" ++ name⟩ :=
  join_eq_of_relative isOpen (isAbsolute_eq_false noSlash)

/-- A path that ends in a name is open. -/
theorem isOpen_append (before : String) {name : String} (nonempty : name ≠ "")
    (noSlash : '/' ∉ name.toList) : IsOpen ⟨before ++ name⟩ := by
  have characters : name.toList ≠ [] := by simpa using nonempty
  refine ⟨by simp [nonempty], ?_⟩
  rw [endsInSlash, decide_eq_false_iff_not, String.toList_append,
    List.getLast?_append_of_ne_nil _ characters]
  exact fun last => noSlash (List.mem_of_getLast? last)

/-- A path that ends in a name is open. -/
theorem isOpen_join (path : Path) {name : String} (nonempty : name ≠ "")
    (noSlash : '/' ∉ name.toList) : IsOpen (path.join name) := by
  rw [join, isAbsolute_eq_false noSlash]
  split
  · contradiction
  · split
    · exact isOpen_append path.text nonempty noSlash
    · exact isOpen_append (path.text ++ "/") nonempty noSlash

/-- Joining two names one after the other is joining the path of both. -/
theorem join_join {path : Path} (isOpen : IsOpen path) {first second : String}
    (nonempty : first ≠ "") (firstNoSlash : '/' ∉ first.toList)
    (secondNoSlash : '/' ∉ second.toList) :
    path.join ((⟨first⟩ : Path).join second).text = (path.join first).join second := by
  have firstOpen : IsOpen ⟨first⟩ := isOpen_append "" nonempty firstNoSlash
  have characters : first.toList ≠ [] := by simpa using nonempty
  have relative : isAbsolute ⟨first ++ "/" ++ second⟩ = false := by
    rw [isAbsolute, decide_eq_false_iff_not]
    simp only [String.toList_append, List.append_assoc]
    rw [List.head?_append_of_ne_nil _ characters]
    exact fun head => firstNoSlash (List.mem_of_head? head)
  rw [join_eq firstOpen secondNoSlash, join_eq_of_relative isOpen relative,
    join_eq (isOpen_join path nonempty firstNoSlash) secondNoSlash, join_eq isOpen firstNoSlash]
  simp [String.append_assoc]

/-- The components of two texts with a slash between them are those of both. -/
theorem components_append (before after : String) :
    components ⟨before ++ "/" ++ after⟩ = components ⟨before⟩ ++ components ⟨after⟩ := by
  have pieces : (before ++ "/" ++ after).toList = before.toList ++ '/' :: after.toList := by simp
  simp only [components, Text.splitAll, pieces, Text.splitAllChars_append, List.map_append,
    List.filter_append]

/-- A name is its own only component. -/
theorem components_of_noSlash {name : String} (nonempty : name ≠ "")
    (noSlash : '/' ∉ name.toList) : components ⟨name⟩ = [name] := by
  simp [components, Text.splitAll, Text.splitAllChars_of_not_mem noSlash, nonempty]

/-- A path that ends in a slash has a text before it. -/
theorem exists_text_eq_append {path : Path} (slash : path.endsInSlash = true) :
    ∃ before, path.text = before ++ "/" := by
  obtain ⟨before, split⟩ := List.getLast?_eq_some_iff.mp (of_decide_eq_true slash)
  exact ⟨String.ofList before, String.toList_inj.mp (by simp [split])⟩

/-- The components of what is joined to a path come after those of the path. -/
theorem components_join_of_relative (path : Path) {name : String}
    (relative : isAbsolute ⟨name⟩ = false) :
    (path.join name).components = path.components ++ components ⟨name⟩ := by
  by_cases empty : path.text = ""
  · have none : path.components = [] := by
      rw [components, empty]
      decide
    rw [join, relative, none]
    simp [empty]
  · cases slash : path.endsInSlash with
    | false => rw [join_eq_of_relative ⟨empty, slash⟩ relative, components_append]
    | true =>
        obtain ⟨before, text⟩ := exists_text_eq_append slash
        have same : path.components = components ⟨before⟩ := by
          have ended := components_append before ""
          rw [String.append_empty] at ended
          rw [components, text]
          exact ended.trans (List.append_nil _)
        rw [join, relative, slash, Bool.or_true, text, same]
        simp only [Bool.false_eq_true, if_false, if_true]
        rw [components_append]

/-- A name that is joined to a path is one more component. -/
theorem components_join (path : Path) {name : String} (nonempty : name ≠ "")
    (noSlash : '/' ∉ name.toList) : (path.join name).components = path.components ++ [name] := by
  rw [components_join_of_relative path (isAbsolute_eq_false noSlash),
    components_of_noSlash nonempty noSlash]

/-- Joining a relative part does not make a path absolute or relative. -/
theorem isAbsolute_join_of_relative (path : Path) {name : String}
    (relative : isAbsolute ⟨name⟩ = false) : (path.join name).isAbsolute = path.isAbsolute := by
  by_cases empty : path.text = ""
  · simpa [join, relative, empty, isAbsolute] using relative
  · have characters : path.text.toList ≠ [] := by simpa using empty
    rw [join, relative, isAbsolute, isAbsolute]
    split
    · contradiction
    · split <;> simp only [String.toList_append, List.append_assoc,
        List.head?_append_of_ne_nil _ characters]

/-- Joining a name does not make a path absolute or relative. -/
theorem isAbsolute_join (path : Path) {name : String} (noSlash : '/' ∉ name.toList) :
    (path.join name).isAbsolute = path.isAbsolute :=
  isAbsolute_join_of_relative path (isAbsolute_eq_false noSlash)

/-- A component of a path is not empty, has no slash, and only characters of the path. -/
theorem of_mem_components {path : Path} {component : String}
    (member : component ∈ path.components) :
    component ≠ "" ∧ '/' ∉ component.toList ∧
      ∀ character ∈ component.toList, character ∈ path.text.toList := by
  obtain ⟨isPiece, nonempty⟩ := List.mem_filter.mp member
  obtain ⟨piece, inPieces, rfl⟩ := List.mem_map.mp isPiece
  obtain ⟨noSlash, inPath⟩ := Text.of_mem_splitAllChars inPieces
  refine ⟨fun empty => ?_, by simpa using noSlash, by simpa using inPath⟩
  rw [empty] at nonempty
  cases nonempty

/-- The way from the last character of a name back to its first keeps the name. -/
theorem trimEndReversed_of_noSlash {characters : List Char} (noSlash : '/' ∉ characters) :
    trimEndReversed characters = characters := by
  unfold trimEndReversed
  split <;> simp_all

/-- Of a slash behind a name only the slash is trimmed. -/
theorem trimEndReversed_slash_cons {characters : List Char} (nonempty : characters ≠ [])
    (noSlash : '/' ∉ characters) : trimEndReversed ('/' :: characters) = characters := by
  cases characters with
  | nil => contradiction
  | cons last earlier =>
      rw [trimEndReversed, trimEndReversed_of_noSlash noSlash]
      simp

end Path

end ContractAtlas

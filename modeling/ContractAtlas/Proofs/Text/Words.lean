import Mathlib
import ContractAtlas.Text.WordCharacter

/-!
# Words in a text

A word is a run of word characters that cannot be extended to either side. `leadingWord` reads the
word that a text starts with, and `receiver?` the first one that a full stop follows directly
(`receiver?_eq_some_iff`).
-/

namespace ContractAtlas.Text

/-- Whether a run of word characters is as long as it can be between what stands before it and after
it. -/
structure IsWord (before word after : List Char) : Prop where
  nonempty : word ≠ []
  characters : ∀ character ∈ word, isWordCharacter character = true
  start : ∀ character ∈ before.getLast?, isWordCharacter character = false
  stop : ∀ character ∈ after.head?, isWordCharacter character = false

/-- The word that a text starts with. -/
def StartsWithWord (characters word : List Char) : Prop :=
  ∃ after, characters = word ++ after ∧ IsWord [] word after

/-- At a place of a text stands a word with a full stop right after it. -/
def ReceiverAt (characters word : List Char) (place : Nat) : Prop :=
  ∃ before after, characters = before ++ (word ++ '.' :: after) ∧ before.length = place ∧
    IsWord before word ('.' :: after)

/-- The first word in a text that has a full stop right after it. -/
def IsReceiver (characters word : List Char) : Prop :=
  ∃ place, ReceiverAt characters word place ∧
    ∀ earlier < place, ∀ other, ¬ ReceiverAt characters other earlier

/-- A stop is not part of a word. -/
theorem isWordCharacter_stop : isWordCharacter '.' = false := by decide

/-! ## The word at the start -/

/-- What is read at the start of a text ends where the word characters end. -/
theorem leadingWord_append {word after : List Char}
    (characters : ∀ character ∈ word, isWordCharacter character = true)
    (stop : ∀ character ∈ after.head?, isWordCharacter character = false) :
    leadingWord (word ++ after) = word := by
  have none : after.takeWhile isWordCharacter = [] := by
    cases after with
    | nil => rfl
    | cons first later => simp [stop first (by simp)]
  rw [leadingWord, List.takeWhile_append_of_pos characters, none, List.append_nil]

/-- A word is not empty. -/
theorem StartsWithWord.ne_nil {characters word : List Char}
    (starts : StartsWithWord characters word) : word ≠ [] := by
  obtain ⟨_, _, isWord⟩ := starts
  exact isWord.nonempty

/-- The word at the start of a text is all that is read there. -/
theorem leadingWord_eq_iff {characters word : List Char} (nonempty : word ≠ []) :
    leadingWord characters = word ↔ StartsWithWord characters word := by
  constructor
  · rintro rfl
    refine ⟨characters.dropWhile isWordCharacter, List.takeWhile_append_dropWhile.symm, nonempty,
      fun _ member => List.mem_takeWhile_imp member, by simp, fun character first => ?_⟩
    have rejected := List.head?_dropWhile_not isWordCharacter characters
    rw [Option.mem_def.mp first] at rejected
    simpa using rejected
  · rintro ⟨after, rfl, isWord⟩
    exact leadingWord_append isWord.characters isWord.stop

/-- Two ways to begin a text with word characters and something else after them are the same. -/
theorem eq_of_wordCharacters {word other after otherAfter : List Char}
    (characters : ∀ character ∈ word, isWordCharacter character = true)
    (charactersToo : ∀ character ∈ other, isWordCharacter character = true)
    (stop : ∀ character ∈ after.head?, isWordCharacter character = false)
    (stopToo : ∀ character ∈ otherAfter.head?, isWordCharacter character = false)
    (same : word ++ after = other ++ otherAfter) : word = other ∧ after = otherAfter := by
  have words : word = other := by
    rw [← leadingWord_append characters stop, same, leadingWord_append charactersToo stopToo]
  subst words
  exact ⟨rfl, List.append_cancel_left same⟩

/-! ## The first word with a full stop after it -/

/-- Without a full stop there is no such word. -/
theorem not_receiverAt_of_wordCharacters {run word : List Char} {place : Nat}
    (characters : ∀ character ∈ run, isWordCharacter character = true) :
    ¬ ReceiverAt run word place := by
  rintro ⟨before, after, rfl, _⟩
  have stop := characters '.' (by simp)
  cases stop.symm.trans isWordCharacter_stop

section

variable {run later word : List Char} {next : Char}

/-- Where some word characters begin a text, such a word either consists of them all, with the full
stop after them, or stands behind the character that ends them. -/
theorem receiverAt_append_cons_iff (characters : ∀ character ∈ run, isWordCharacter character = true)
    (other : isWordCharacter next = false) {place : Nat} :
    ReceiverAt (run ++ next :: later) word place ↔
      (place = 0 ∧ word = run ∧ run ≠ [] ∧ next = '.') ∨
        ∃ behind, place = run.length + 1 + behind ∧ ReceiverAt later word behind := by
  have ends : ∀ character ∈ (next :: later).head?, isWordCharacter character = false := by
    simpa using other
  constructor
  · rintro ⟨before, after, spelled, rfl, isWord⟩
    obtain ⟨passed, rfl, rest⟩ | ⟨passed, rfl, rest⟩ := List.append_eq_append_iff.mp spelled
    · cases passed with
      | nil =>
          -- The word would begin with the character that is none of a word.
          have begins := congrArg List.head? rest
          obtain ⟨first, remaining, rfl⟩ := List.exists_cons_of_ne_nil isWord.nonempty
          obtain rfl : next = first := by simpa using begins
          cases other.symm.trans (isWord.characters next List.mem_cons_self)
      | cons first passed =>
          obtain ⟨rfl, rfl⟩ := List.cons.inj rest
          refine .inr ⟨passed.length, by simp; omega, passed, after, rfl, rfl, isWord.nonempty,
            isWord.characters, fun character last => isWord.start character ?_, isWord.stop⟩
          rw [Option.mem_def] at last ⊢
          rw [List.getLast?_append, List.getLast?_cons, last, Option.getD_some, Option.some_or]
    · cases before using List.reverseRecOn with
      | nil =>
          obtain ⟨rfl, follows⟩ :=
            eq_of_wordCharacters isWord.characters characters isWord.stop ends rest
          exact .inl ⟨rfl, rfl, isWord.nonempty, (List.cons.inj follows).1.symm⟩
      | append_singleton before last =>
          -- The word could be extended by the character in front of it.
          cases (isWord.start last (by simp)).symm.trans (characters last (by simp))
  · rintro (⟨rfl, rfl, nonempty, rfl⟩ | ⟨behind, rfl, before, after, rfl, rfl, isWord⟩)
    · exact ⟨[], later, rfl, rfl, nonempty, characters, by simp, ends⟩
    · refine ⟨run ++ next :: before, after, by simp, by simp; omega, isWord.nonempty,
        isWord.characters, fun character last => ?_, isWord.stop⟩
      cases before using List.reverseRecOn with
      | nil => simpa [← show next = character by simpa using last] using other
      | append_singleton before final =>
          rw [← List.cons_append, ← List.append_assoc, List.getLast?_concat] at last
          exact isWord.start character (by rwa [List.getLast?_concat])

/-- If a full stop ends the word characters that begin a text, they are its first such word. If
something else does, the first one is that of the rest. -/
theorem isReceiver_append_cons_iff (characters : ∀ character ∈ run, isWordCharacter character = true)
    (other : isWordCharacter next = false) :
    IsReceiver (run ++ next :: later) word ↔
      if run ≠ [] ∧ next = '.' then word = run else IsReceiver later word := by
  have receiverAt_iff {word : List Char} {place : Nat} :
      ReceiverAt (run ++ next :: later) word place ↔ _ :=
    receiverAt_append_cons_iff characters other
  split
  · rename_i stops
    have here : ReceiverAt (run ++ next :: later) run 0 :=
      receiverAt_iff.mpr (.inl ⟨rfl, rfl, stops⟩)
    constructor
    · rintro ⟨place, stands, first⟩
      obtain ⟨_, same, _⟩ | ⟨behind, rfl, _⟩ := receiverAt_iff.mp stands
      · exact same
      · exact absurd here (first 0 (by omega) run)
    · rintro rfl
      exact ⟨0, here, fun earlier below => absurd below (Nat.not_lt_zero earlier)⟩
  · rename_i goesOn
    have behind_iff {word : List Char} {place : Nat} :
        ReceiverAt (run ++ next :: later) word place ↔
          ∃ behind, place = run.length + 1 + behind ∧ ReceiverAt later word behind := by
      rw [receiverAt_iff]
      exact ⟨fun either => either.resolve_left fun here => goesOn here.2.2, .inr⟩
    constructor
    · rintro ⟨place, stands, first⟩
      obtain ⟨behind, rfl, standsBehind⟩ := behind_iff.mp stands
      refine ⟨behind, standsBehind, fun earlier below other standsToo => ?_⟩
      exact first (run.length + 1 + earlier) (by omega) other
        (behind_iff.mpr ⟨earlier, rfl, standsToo⟩)
    · rintro ⟨behind, stands, first⟩
      refine ⟨run.length + 1 + behind, behind_iff.mpr ⟨behind, rfl, stands⟩, ?_⟩
      intro place below other standsToo
      obtain ⟨earlier, rfl, standsBehind⟩ := behind_iff.mp standsToo
      exact first earlier (by omega) other standsBehind

/-- The search keeps the word characters that it has just read. -/
theorem receiverFrom?_eq_some_iff
    (characters : ∀ character ∈ run, isWordCharacter character = true) :
    receiverFrom? run later = some word ↔ IsReceiver (run.reverse ++ later) word := by
  induction later generalizing run with
  | nil =>
      have none : ¬ IsReceiver (run.reverse ++ []) word := by
        rintro ⟨place, stands, _⟩
        exact not_receiverAt_of_wordCharacters (by simpa using characters) stands
      exact iff_of_false (by simp [receiverFrom?]) none
  | cons next later inductionHypothesis =>
      rw [receiverFrom?]
      split
      · rename_i goesOn
        rw [inductionHypothesis (List.forall_mem_cons.mpr ⟨goesOn, characters⟩)]
        simp
      · rename_i ended
        rw [isReceiver_append_cons_iff (by simpa using characters) (by simpa using ended)]
        have stops_iff : (next = '.' && !run.isEmpty) = true ↔ run.reverse ≠ [] ∧ next = '.' := by
          rw [Bool.and_eq_true, and_comm]
          simp
        by_cases stops : run.reverse ≠ [] ∧ next = '.'
        · rw [if_pos (stops_iff.mpr stops), if_pos stops, Option.some.injEq]
          exact eq_comm
        · rw [if_neg (mt stops_iff.mp stops), if_neg stops, inductionHypothesis (by simp)]
          rfl

end

/-- The search for the first word with a full stop after it finds it. -/
theorem receiver?_eq_some_iff {characters word : List Char} :
    receiver? characters = some word ↔ IsReceiver characters word :=
  receiverFrom?_eq_some_iff (by simp)

end ContractAtlas.Text

import Mathlib
import ContractAtlas.Text.Search

/-!
# Searching and splitting at the first separator

A pattern occurs in a text if its characters stand there one after the other
(`containsChars_eq_true_iff`). `splitOnce` cuts a text at its first separator and keeps all other
characters, so it is the only way to write the text as a part without the separator, the separator,
and the rest (`splitOnce_eq_iff`).
-/

namespace ContractAtlas.Text

/-- A pattern is contained exactly when it stands somewhere in the text. -/
theorem containsChars_eq_true_iff {pattern characters : List Char} :
    containsChars pattern characters = true ↔ pattern <:+: characters := by
  induction characters with
  | nil => simp [containsChars]
  | cons character later inductionHypothesis =>
      simp [containsChars, inductionHypothesis, List.infix_cons_iff]

/-- A text without the separator is not split. -/
theorem splitOnceChars_of_not_mem {separator : Char} {characters : List Char}
    (absent : separator ∉ characters) :
    splitOnceChars separator characters = (characters, none) := by
  induction characters with
  | nil => rfl
  | cons character later inductionHypothesis =>
      simp only [List.mem_cons, not_or] at absent
      rw [splitOnceChars, if_neg (Ne.symm absent.1), inductionHypothesis absent.2]

/-- A text is split at the first separator. -/
theorem splitOnceChars_append {separator : Char} {before : List Char}
    (absent : separator ∉ before) (after : List Char) :
    splitOnceChars separator (before ++ separator :: after) = (before, some after) := by
  induction before with
  | nil => simp [splitOnceChars]
  | cons character later inductionHypothesis =>
      simp only [List.mem_cons, not_or] at absent
      rw [List.cons_append, splitOnceChars, if_neg (Ne.symm absent.1),
        inductionHypothesis absent.2]

/-- Either there is no separator, or the first one stands between the two parts. -/
theorem splitOnceChars_cases (separator : Char) (characters : List Char) :
    separator ∉ characters ∨
      ∃ before after, separator ∉ before ∧ characters = before ++ separator :: after := by
  by_cases member : separator ∈ characters
  · obtain ⟨before, after, split, absent⟩ := List.eq_append_cons_of_mem member
    exact .inr ⟨before, after, absent, split⟩
  · exact .inl member

/-- A text is split into two parts exactly if it consists of them and the separator between them,
and the first one has no separator. Without a second part there is no separator at all. -/
theorem splitOnce_eq_iff {separator : Char} {text before : String} {after : Option String} :
    splitOnce separator text = (before, after) ↔
      separator ∉ before.toList ∧ text.toList = before.toList ++
        (after.map fun later => separator :: later.toList).getD [] := by
  constructor
  · intro split
    obtain absent | ⟨first, rest, absent, spelled⟩ := splitOnceChars_cases separator text.toList
    · simp only [splitOnce, splitOnceChars_of_not_mem absent, Option.map_none,
        String.ofList_toList, Prod.mk.injEq] at split
      obtain ⟨rfl, rfl⟩ := split
      simpa using absent
    · simp only [splitOnce, spelled, splitOnceChars_append absent, Option.map_some,
        Prod.mk.injEq] at split
      obtain ⟨rfl, rfl⟩ := split
      simpa using ⟨absent, spelled⟩
  · rintro ⟨absent, spelled⟩
    cases after with
    | none =>
        obtain rfl : text = before := String.toList_inj.mp (by simpa using spelled)
        simp [splitOnce, splitOnceChars_of_not_mem absent]
    | some later =>
        have parts : text.toList = before.toList ++ separator :: later.toList := by
          simpa using spelled
        simp [splitOnce, parts, splitOnceChars_append absent]

end ContractAtlas.Text

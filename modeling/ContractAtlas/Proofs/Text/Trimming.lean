import Mathlib
import ContractAtlas.Text.Blank
import ContractAtlas.Text.Search

/-!
# Trimming and letter case

What `trim` leaves starts and ends with a solid character, so a second `trim` changes nothing
(`trim_trim`), and nothing but blank characters is taken off (`exists_trimmed`). Lowering ASCII
letters keeps blank characters blank and the values of hexadecimal digits, which is why both commute
with reading an address.
-/

namespace ContractAtlas.Text

/-- A text that does not start with a blank is not trimmed at its start. -/
theorem trimStartChars_eq_self {characters : List Char}
    (head : ∀ character ∈ characters.head?, isBlank character = false) :
    trimStartChars characters = characters := by
  cases characters with
  | nil => rfl
  | cons first later =>
      have solid : isBlank first = false := head first rfl
      simp [trimStartChars, solid]

/-- A text that does not end in a blank is not trimmed at its end. -/
theorem trimEndChars_eq_self {characters : List Char}
    (last : ∀ character ∈ characters.getLast?, isBlank character = false) :
    trimEndChars characters = characters := by
  have reversed : trimStartChars characters.reverse = characters.reverse :=
    trimStartChars_eq_self (by simpa [List.head?_reverse] using last)
  simpa [trimEndChars, trimStartChars] using congrArg List.reverse reversed

/-- Nothing is trimmed off characters that neither start nor end with a blank one. -/
theorem trimChars_eq_self {characters : List Char}
    (head : ∀ character ∈ characters.head?, isBlank character = false)
    (last : ∀ character ∈ characters.getLast?, isBlank character = false) :
    trimChars characters = characters := by
  rw [trimChars, trimStartChars_eq_self head, trimEndChars_eq_self last]

/-- A text without blanks is not trimmed. -/
theorem trimChars_of_solid {characters : List Char}
    (solid : ∀ character ∈ characters, isBlank character = false) :
    trimChars characters = characters :=
  trimChars_eq_self (fun _ head => solid _ (List.mem_of_mem_head? head))
    (fun _ last => solid _ (List.mem_of_getLast? last))

/-- What is left after dropping blanks does not start with one. -/
private theorem head?_dropWhile_solid {characters : List Char} {first : Char}
    (head : first ∈ (characters.dropWhile isBlank).head?) : isBlank first = false := by
  have stopped := List.head?_dropWhile_not isBlank characters
  rw [Option.mem_def.mp head] at stopped
  exact stopped

/-- Trimming the end leaves a start of the text. -/
theorem trimEndChars_isPrefix (characters : List Char) :
    (trimEndChars characters).IsPrefix characters := by
  have suffix := List.dropWhile_suffix (l := characters.reverse) isBlank
  simpa [trimEndChars] using List.reverse_prefix.mpr suffix

/-- A trimmed text does not start with a blank. -/
theorem isBlank_head?_trimChars {characters : List Char} {first : Char}
    (head : first ∈ (trimChars characters).head?) : isBlank first = false := by
  obtain ⟨removed, kept⟩ := trimEndChars_isPrefix (trimStartChars characters)
  have start : first ∈ (trimStartChars characters).head? := by
    rw [← kept, List.head?_append, Option.mem_def]
    exact Option.or_eq_some_iff.mpr (.inl head)
  exact head?_dropWhile_solid start

/-- A trimmed text does not end in a blank. -/
theorem isBlank_getLast?_trimChars {characters : List Char} {final : Char}
    (last : final ∈ (trimChars characters).getLast?) : isBlank final = false := by
  simp only [trimChars, trimEndChars, List.getLast?_reverse] at last
  exact head?_dropWhile_solid last

/-- Trimming twice is trimming once. -/
theorem trimChars_trimChars (characters : List Char) :
    trimChars (trimChars characters) = trimChars characters :=
  trimChars_eq_self (fun _ => isBlank_head?_trimChars) (fun _ => isBlank_getLast?_trimChars)

/-! ## What is trimmed -/

/-- Blank characters around a text do not matter. -/
theorem trimChars_surrounded {before after : List Char}
    (blankBefore : ∀ character ∈ before, isBlank character = true)
    (blankAfter : ∀ character ∈ after, isBlank character = true) (characters : List Char) :
    trimChars (before ++ characters ++ after) = trimChars characters := by
  have nothingAfter : after.dropWhile isBlank = [] := List.dropWhile_eq_nil_iff.mpr blankAfter
  have start : trimStartChars (before ++ characters ++ after) =
      trimStartChars (characters ++ after) := by
    rw [trimStartChars, trimStartChars, List.append_assoc,
      List.dropWhile_append_of_pos blankBefore]
  have ending (kept : List Char) : trimEndChars (kept ++ after) = trimEndChars kept := by
    rw [trimEndChars, trimEndChars, List.reverse_append,
      List.dropWhile_append_of_pos (by simpa using blankAfter)]
  rw [trimChars, trimChars, start, trimStartChars, trimStartChars, List.dropWhile_append]
  split
  · rename_i allBlank
    rw [nothingAfter, List.isEmpty_iff.mp allBlank]
  · exact ending _

/-- Nothing but blank characters is trimmed off at the end. -/
theorem exists_trimmedEnd (characters : List Char) :
    ∃ after, (∀ character ∈ after, isBlank character = true) ∧
      characters = trimEndChars characters ++ after := by
  refine ⟨(characters.reverse.takeWhile isBlank).reverse, fun character member => ?_, ?_⟩
  · exact List.mem_takeWhile_imp (List.mem_reverse.mp member)
  · rw [trimEndChars, ← List.reverse_append, List.takeWhile_append_dropWhile, List.reverse_reverse]

/-- Nothing but blank characters is trimmed off. -/
theorem exists_trimmed (characters : List Char) :
    ∃ before after, (∀ character ∈ before, isBlank character = true) ∧
      (∀ character ∈ after, isBlank character = true) ∧
      characters = before ++ trimChars characters ++ after := by
  obtain ⟨after, blankAfter, kept⟩ := exists_trimmedEnd (trimStartChars characters)
  refine ⟨characters.takeWhile isBlank, after, fun character => List.mem_takeWhile_imp,
    blankAfter, ?_⟩
  rw [trimChars, List.append_assoc, ← kept, trimStartChars, List.takeWhile_append_dropWhile]

/-- A solid character of a text is never trimmed off. -/
theorem mem_trimChars_iff {solid : Char} (notBlank : isBlank solid = false)
    {characters : List Char} : solid ∈ trimChars characters ↔ solid ∈ characters := by
  obtain ⟨before, after, blankBefore, blankAfter, split⟩ := exists_trimmed characters
  have noBlank {blanks : List Char} (blank : ∀ character ∈ blanks, isBlank character = true) :
      solid ∉ blanks := fun member => Bool.false_ne_true (notBlank.symm.trans (blank solid member))
  conv_rhs => rw [split]
  simp [noBlank blankBefore, noBlank blankAfter]

/-- What stands before a solid character keeps its place when the end is trimmed. -/
theorem trimEndChars_append_cons {solid : Char} (notBlank : isBlank solid = false)
    (before after : List Char) :
    trimEndChars (before ++ solid :: after) = before ++ solid :: trimEndChars after := by
  have last : (after.reverse ++ solid :: before.reverse).dropWhile isBlank =
      after.reverse.dropWhile isBlank ++ solid :: before.reverse := by
    rw [List.dropWhile_append]
    split
    · rename_i allBlank
      simp [List.isEmpty_iff.mp allBlank, notBlank]
    · rfl
  simp [trimEndChars, last]

/-- Trimming commutes with a map of characters that keeps blank characters blank and solid ones
solid. -/
theorem trimChars_map {replace : Char -> Char}
    (sameBlanks : ∀ character, isBlank (replace character) = isBlank character)
    (characters : List Char) :
    trimChars (characters.map replace) = (trimChars characters).map replace := by
  have composed : isBlank ∘ replace = isBlank := funext sameBlanks
  simp only [trimChars, trimEndChars, trimStartChars, List.dropWhile_map, ← List.map_reverse,
    composed]

@[simp] theorem toList_trim (text : String) : (trim text).toList = trimChars text.toList := by
  simp [trim]

/-- Trimming twice is trimming once. -/
@[simp] theorem trim_trim (text : String) : trim (trim text) = trim text := by
  rw [trim, toList_trim, trimChars_trimChars, trim]

/-! ## ASCII letter case -/

/-- Characters are ordered by their numbers. -/
theorem toNat_le_iff (left right : Char) : left <= right ↔ left.toNat <= right.toNat := by
  rw [Char.le_def]
  exact UInt32.le_iff_toNat_le

/-- The lower case of a letter is thirty-two places further. -/
theorem toNat_lowerAsciiChar (character : Char) :
    (lowerAsciiChar character).toNat =
      if 65 <= character.toNat ∧ character.toNat <= 90 then character.toNat + 32
      else character.toNat := by
  simp only [lowerAsciiChar, Bool.and_eq_true, decide_eq_true_eq, toNat_le_iff]
  have capital : 'A'.toNat = 65 ∧ 'Z'.toNat = 90 := ⟨rfl, rfl⟩
  rw [capital.1, capital.2]
  split
  · rename_i letter
    have valid : (character.toNat + 32).isValidChar := .inl (by omega)
    rw [Char.toNat_ofNat, if_pos valid]
  · rfl

/-- No printable ASCII character is blank. -/
theorem isBlank_of_printable {character : Char}
    (first : 33 <= character.toNat) (last : character.toNat <= 126) :
    isBlank character = false := by
  simp only [isBlank, blankRanges, CodeRange.table, CodeRange.covers]
  rw [if_neg (by omega), if_neg (by omega), if_pos (by omega)]
  exact decide_eq_false (by omega)

/-- Lowering a letter makes no blank and takes none away. -/
@[simp] theorem isBlank_lowerAsciiChar (character : Char) :
    isBlank (lowerAsciiChar character) = isBlank character := by
  by_cases letter : 65 <= character.toNat ∧ character.toNat <= 90
  · have lowered := toNat_lowerAsciiChar character
    rw [if_pos letter] at lowered
    rw [isBlank_of_printable (by omega) (by omega), isBlank_of_printable (by omega) (by omega)]
  · have lowered := toNat_lowerAsciiChar character
    rw [if_neg letter] at lowered
    rw [isBlank, isBlank, lowered]

/-- The value of a hexadecimal digit by its code. -/
theorem hexValue?_eq (character : Char) : hexValue? character =
    if 48 <= character.toNat ∧ character.toNat <= 57 then
      some (lastHexDigit (character.toNat - 48))
    else if 97 <= character.toNat ∧ character.toNat <= 102 then
      some (lastHexDigit (character.toNat - 87))
    else if 65 <= character.toNat ∧ character.toNat <= 70 then
      some (lastHexDigit (character.toNat - 55))
    else none := by
  have bounds : '0'.toNat = 48 ∧ '9'.toNat = 57 ∧ 'a'.toNat = 97 ∧ 'f'.toNat = 102 ∧
      'A'.toNat = 65 ∧ 'F'.toNat = 70 := by decide
  obtain ⟨zero, nine, lowerA, lowerF, upperA, upperF⟩ := bounds
  simp only [hexValue?, Bool.and_eq_true, decide_eq_true_eq, toNat_le_iff, zero, nine, lowerA,
    lowerF, upperA, upperF]

/-- Lowering a letter keeps the values of digits. -/
@[simp] theorem hexValue?_lowerAsciiChar (character : Char) :
    hexValue? (lowerAsciiChar character) = hexValue? character := by
  simp only [hexValue?_eq, toNat_lowerAsciiChar]
  by_cases letter : 65 <= character.toNat ∧ character.toNat <= 90
  · simp only [if_pos letter]
    by_cases small : character.toNat <= 70
    · have shifted : character.toNat + 32 - 87 = character.toNat - 55 := by omega
      rw [if_neg (by omega), if_pos (by omega), if_neg (by omega), if_neg (by omega),
        if_pos (by omega), shifted]
    · rw [if_neg (by omega), if_neg (by omega), if_neg (by omega), if_neg (by omega),
        if_neg (by omega), if_neg (by omega)]
  · simp only [if_neg letter]

@[simp] theorem toList_lowerAscii (text : String) :
    (lowerAscii text).toList = text.toList.map lowerAsciiChar := by
  simp [lowerAscii]

end ContractAtlas.Text

import ContractAtlas.Proofs.Address

/-!
# What address texts denote

A text denotes twenty bytes when it is `0x` and two hexadecimal digits for every byte, in any letter
case, with any blanks around it. `DenotesBytes` says so without reading the text, and
`isNormalForm_normalize?` compares the normal form of a text with it: just such a text has one, two
texts have the same one exactly when they denote the same bytes, it is its own normal form, and
neither the letter case of the digits nor the blanks matter to it.
-/

namespace ContractAtlas

open Text

/-! ## Bytes and their digits -/

namespace Text

/-- A byte can be told from its two digits. -/
theorem byteDigits_injective : Function.Injective byteDigits := by
  intro left right same
  simp only [byteDigits, lastHexDigit, List.cons.injEq, Fin.mk.injEq, and_true] at same
  have left_lt := left.toNat_lt
  have right_lt := right.toNat_lt
  rw [← UInt8.toNat_inj]
  omega

/-- There are two digits for every byte. -/
theorem length_flatMap_byteDigits (bytes : List UInt8) :
    (bytes.flatMap byteDigits).length = 2 * bytes.length := by
  induction bytes with
  | nil => rfl
  | cons byte later inductionHypothesis =>
      simp only [List.flatMap_cons, List.length_append, inductionHypothesis, byteDigits,
        List.length_cons, List.length_nil]
      omega

/-- Bytes can be told from their digits, as every byte has the same number of them. -/
theorem flatMap_byteDigits_injective :
    Function.Injective fun bytes : List UInt8 => bytes.flatMap byteDigits := by
  intro left right same
  have lengths := congrArg List.length same
  simp only [length_flatMap_byteDigits] at lengths
  induction left generalizing right with
  | nil => exact (List.length_eq_zero_iff.mp (by simpa using lengths.symm)).symm
  | cons byte later inductionHypothesis =>
      cases right with
      | nil => simp at lengths
      | cons other others =>
          have digits : byteDigits byte ++ later.flatMap byteDigits =
              byteDigits other ++ others.flatMap byteDigits := by simpa using same
          obtain ⟨first, rest⟩ := List.append_inj digits rfl
          rw [byteDigits_injective first, inductionHypothesis rest (by simpa using lengths)]

/-- Digits in even number are the digits of bytes. -/
theorem exists_bytes {count : Nat} {digits : List (Fin 16)} (even : digits.length = 2 * count) :
    ∃ bytes : List UInt8, bytes.length = count ∧ bytes.flatMap byteDigits = digits := by
  induction count generalizing digits with
  | zero => exact ⟨[], rfl, (List.length_eq_zero_iff.mp even).symm⟩
  | succ count inductionHypothesis =>
      match digits, even with
      | high :: low :: later, even =>
          have evenLater : later.length = 2 * count := by
            simp only [List.length_cons] at even
            omega
          obtain ⟨bytes, rfl, spelled⟩ := inductionHypothesis evenLater
          have pair : byteDigits (UInt8.ofNat (16 * high.val + low.val)) = [high, low] := by
            have value : (UInt8.ofNat (16 * high.val + low.val)).toNat =
                16 * high.val + low.val := by
              rw [UInt8.toNat_ofNat']
              omega
            simp only [byteDigits, lastHexDigit, value, List.cons.injEq, Fin.ext_iff, and_true]
            omega
          exact ⟨UInt8.ofNat (16 * high.val + low.val) :: bytes, rfl, by
            rw [List.flatMap_cons, pair, spelled]; rfl⟩

end Text

namespace Address

/-- The text denotes these bytes: it is `0x` and two digits for each of twenty bytes, in any letter
case, with any blanks around it. -/
def DenotesBytes (text : String) (bytes : List UInt8) : Prop :=
  bytes.length = 20 ∧
    ∃ before digits after, (∀ character ∈ before, isBlank character = true) ∧
      (∀ character ∈ after, isBlank character = true) ∧
      text.toList = before ++ '0' :: 'x' :: digits ++ after ∧
      digits.mapM hexValue? = some (bytes.flatMap byteDigits)

/-- A text denotes the bytes of the address that is read off it. -/
theorem denotesBytes_iff {text : String} {bytes : List UInt8} :
    DenotesBytes text bytes ↔
      ∃ address, parse? text = some address ∧ address.digits = bytes.flatMap byteDigits := by
  constructor
  · rintro ⟨twenty, before, digits, after, blankBefore, blankAfter, split, values⟩
    have forty : (bytes.flatMap byteDigits).length = 40 := by
      rw [length_flatMap_byteDigits, twenty]
    exact ⟨⟨_, forty⟩, parse?_eq_some_iff.mpr
      ⟨before, digits, after, blankBefore, blankAfter, split, values⟩, rfl⟩
  · rintro ⟨address, read, same⟩
    have lengths := address.length_digits
    rw [same, length_flatMap_byteDigits] at lengths
    refine ⟨by omega, ?_⟩
    rw [← same]
    exact parse?_eq_some_iff.mp read

/-- The texts that denote bytes are those that are read as an address. -/
theorem exists_denotesBytes_iff {text : String} :
    (∃ bytes, DenotesBytes text bytes) ↔ (parse? text).isSome = true := by
  simp only [denotesBytes_iff, Option.isSome_iff_exists]
  constructor
  · rintro ⟨_, address, read, _⟩
    exact ⟨address, read⟩
  · rintro ⟨address, read⟩
    have even : address.digits.length = 2 * 20 := address.length_digits
    obtain ⟨bytes, _, same⟩ := exists_bytes even
    exact ⟨bytes, address, read, same.symm⟩

end Address

/-! ## Letter case -/

namespace Text

/-- An upper-case hexadecimal digit in lower case, and any other character as it is. -/
def lowerHexLetter (character : Char) : Char :=
  if 'A' <= character && character <= 'F' then lowerAsciiChar character else character

/-- Lowering hexadecimal letters makes no blank and takes none away. -/
@[simp] theorem isBlank_lowerHexLetter (character : Char) :
    isBlank (lowerHexLetter character) = isBlank character := by
  rw [lowerHexLetter]
  split
  · exact isBlank_lowerAsciiChar character
  · rfl

/-- Lowering hexadecimal letters keeps the values of digits. -/
@[simp] theorem hexValue?_lowerHexLetter (character : Char) :
    hexValue? (lowerHexLetter character) = hexValue? character := by
  rw [lowerHexLetter]
  split
  · exact hexValue?_lowerAsciiChar character
  · rfl

/-- A character that is no letter digit comes from itself only. -/
theorem lowerHexLetter_eq_iff {character mark : Char}
    (noLetter : mark.toNat < 65 ∨ 102 < mark.toNat) :
    lowerHexLetter character = mark ↔ character = mark := by
  have bounds : 'A'.toNat = 65 ∧ 'F'.toNat = 70 := ⟨rfl, rfl⟩
  rw [lowerHexLetter]
  split
  · rename_i letter
    simp only [Bool.and_eq_true, decide_eq_true_eq, toNat_le_iff, bounds] at letter
    have lowered := toNat_lowerAsciiChar character
    rw [if_pos (by omega)] at lowered
    constructor
    · rintro rfl
      omega
    · rintro rfl
      omega
  · rfl

end Text

namespace Address

/-- Reading an address does not tell large letters from small ones. -/
theorem ofChars?_map_lowerHexLetter (characters : List Char) :
    ofChars? (characters.map lowerHexLetter) = ofChars? characters := by
  have zero (character : Char) : lowerHexLetter character = '0' ↔ character = '0' :=
    lowerHexLetter_eq_iff (by decide)
  have mark (character : Char) : lowerHexLetter character = 'x' ↔ character = 'x' :=
    lowerHexLetter_eq_iff (by decide)
  apply Option.ext
  intro address
  rw [ofChars?_eq_some_iff, ofChars?_eq_some_iff]
  constructor
  · rintro ⟨digits, spelled, values⟩
    simp only [List.map_eq_cons_iff, zero, mark] at spelled
    obtain ⟨_, _, rfl, rfl, _, later, rfl, rfl, rfl⟩ := spelled
    exact ⟨later, rfl, by simpa [List.mapM_map, Function.comp_def] using values⟩
  · rintro ⟨digits, rfl, values⟩
    exact ⟨digits.map lowerHexLetter, by simp [(zero _).mpr, (mark _).mpr],
      by simpa [List.mapM_map, Function.comp_def] using values⟩

/-- Texts that differ in the letter case of hexadecimal digits only denote the same address. -/
theorem parse?_congr {text other : String}
    (same : text.toList.map lowerHexLetter = other.toList.map lowerHexLetter) :
    parse? text = parse? other := by
  have trimmed (text : String) : ofChars? (trimChars (text.toList.map lowerHexLetter)) =
      parse? text := by
    rw [trimChars_map isBlank_lowerHexLetter, ofChars?_map_lowerHexLetter, parse?]
  rw [← trimmed, same, trimmed]

/-! ## Normal forms -/

/-- The normal form of a text is the checksummed text of the address that it is read as. -/
theorem normalize?_eq_some_iff {text normal : String} :
    normalize? text = some normal ↔
      ∃ address, parse? text = some address ∧ address.checksummed = normal := by
  simp [normalize?]

/-- What makes a function the normal form of the texts of addresses. -/
structure IsNormalForm (normalize : String -> Option String) : Prop where
  /-- Just the texts that denote bytes have a normal form. -/
  isSome_iff : ∀ text, (normalize text).isSome = true ↔ ∃ bytes, DenotesBytes text bytes
  /-- The normal forms of two texts are the same exactly if the texts denote the same bytes. -/
  eq_iff : ∀ {text other bytes otherBytes}, DenotesBytes text bytes →
    DenotesBytes other otherBytes → (normalize text = normalize other ↔ bytes = otherBytes)
  idempotent : ∀ {text normal}, normalize text = some normal → normalize normal = some normal
  letterCase : ∀ {text other : String},
    text.toList.map lowerHexLetter = other.toList.map lowerHexLetter →
      normalize text = normalize other
  blanks : ∀ {before text after : String}, (∀ character ∈ before.toList, isBlank character = true) →
    (∀ character ∈ after.toList, isBlank character = true) →
      normalize (before ++ text ++ after) = normalize text

/-- The checksummed text of an address is the normal form of all texts of the address. -/
theorem isNormalForm_normalize? : IsNormalForm normalize? where
  isSome_iff text := by
    rw [exists_denotesBytes_iff, normalize?, Option.isSome_map]
  eq_iff denotes denotesToo := by
    obtain ⟨address, read, digits⟩ := denotesBytes_iff.mp denotes
    obtain ⟨otherAddress, readToo, otherDigits⟩ := denotesBytes_iff.mp denotesToo
    rw [normalize?, normalize?, read, readToo, Option.map_some, Option.map_some,
      Option.some.injEq, checksummed_injective.eq_iff]
    constructor
    · rintro rfl
      exact flatMap_byteDigits_injective (digits.symm.trans otherDigits)
    · rintro rfl
      cases address
      cases otherAddress
      cases digits.trans otherDigits.symm
      rfl
  idempotent normalized := by
    obtain ⟨address, _, rfl⟩ := normalize?_eq_some_iff.mp normalized
    rw [normalize?, parse?_checksummed, Option.map_some]
  letterCase same := by
    rw [normalize?, normalize?, parse?_congr same]
  blanks {before text after} blankBefore blankAfter := by
    have sameTrimmed : parse? (before ++ text ++ after) = parse? text := by
      rw [parse?, parse?, String.toList_append, String.toList_append,
        trimChars_surrounded blankBefore blankAfter]
    rw [normalize?, normalize?, sameTrimmed]

end Address

end ContractAtlas

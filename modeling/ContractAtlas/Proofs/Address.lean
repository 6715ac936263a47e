import ContractAtlas.Address
import ContractAtlas.Proofs.Itemwise
import ContractAtlas.Proofs.Text.Trimming

/-!
# Normal forms of addresses

The checksummed text of an address reads back as that address (`parse?_checksummed`), so it
determines the address. It has forty-two printable characters and no colon among them, whatever the
hash of the digits is; nothing here looks at the value of a hash, only at its length.
-/

namespace ContractAtlas

open Text

/-- A digest has 32 bytes, whatever the message. -/
theorem Keccak.length_digest (message : List UInt8) : (Keccak.digest message).length = 32 := by
  simp [Keccak.digest, Keccak.laneBytes]

namespace Address

variable (address : Address)

/-- The hash of an address has a nibble for each of 64 digits. -/
theorem length_checksumHash : address.checksumHash.length = 64 := by
  have pairs : ∀ bytes : List UInt8,
      (bytes.flatMap fun byte => [byte.toNat / 16, byte.toNat % 16]).length = 2 * bytes.length := by
    intro bytes
    induction bytes with
    | nil => rfl
    | cons byte later inductionHypothesis =>
        simp only [List.flatMap_cons, List.length_append, inductionHypothesis, List.length_cons,
          List.length_nil]
        omega
  rw [checksumHash, pairs, Keccak.length_digest]

/-- A digit in upper or lower case has the value of the digit. -/
theorem hexValue?_checksumDigit (digit : Fin 16) (hash : Nat) :
    hexValue? (checksumDigit digit hash) = some digit := by
  have upper : ∀ digit : Fin 16, 10 <= digit.val →
      hexValue? (Char.ofNat (55 + digit.val)) = some digit := by decide
  have lower : ∀ digit : Fin 16, hexValue? (hexDigit digit) = some digit := by decide
  rw [checksumDigit]
  split
  · rename_i capital
    simp only [Bool.and_eq_true, decide_eq_true_eq] at capital
    exact upper digit capital.1
  · exact lower digit

/-- Digits keep their values whatever the hash at their places is, if the hash is long enough. -/
private theorem mapM_hexValue?_zipWith (digits : List (Fin 16)) (hash : List Nat)
    (covered : digits.length <= hash.length) :
    (List.zipWith checksumDigit digits hash).mapM hexValue? = some digits := by
  induction digits generalizing hash with
  | nil => rfl
  | cons digit later inductionHypothesis =>
      cases hash with
      | nil => simp at covered
      | cons first others =>
          have rest := inductionHypothesis others (by simpa using covered)
          simp [hexValue?_checksumDigit, rest]

/-- There is a nibble of the hash for every digit, so none is lost when digits and nibbles are
zipped. -/
theorem digits_length_le_checksumHash : address.digits.length <= address.checksumHash.length := by
  rw [address.length_digits, length_checksumHash]
  omega

/-- The case of the digits, which is all that the checksum sets, does not matter to the reader. -/
theorem ofChars?_checksumChars : ofChars? address.checksumChars = some address := by
  have values := mapM_hexValue?_zipWith address.digits address.checksumHash
    address.digits_length_le_checksumHash
  simp [checksumChars, ofChars?, values, address.length_digits]

/-- The checksummed spelling has forty-two characters. -/
@[simp] theorem length_checksumChars : address.checksumChars.length = 42 := by
  simp [checksumChars, length_checksumHash, address.length_digits]

end Address

/-- A hexadecimal digit is a printable character and no colon. -/
theorem Text.printable_of_hexValue? {character : Char} {digit : Fin 16}
    (value : hexValue? character = some digit) :
    48 <= character.toNat ∧ character.toNat <= 102 ∧ character.toNat ≠ 58 := by
  rw [hexValue?_eq] at value
  split at value
  · omega
  split at value
  · omega
  split at value
  · omega
  · cases value

/-- Hexadecimal digits are no blanks, so trimming leaves them. -/
theorem Text.isBlank_of_hexValue? {character : Char} {digit : Fin 16}
    (value : hexValue? character = some digit) : isBlank character = false := by
  obtain ⟨first, last, _⟩ := printable_of_hexValue? value
  exact isBlank_of_printable (by omega) (by omega)

namespace Address

/-- An address is read off `0x` and digits with the values of its own, and nothing else. -/
theorem ofChars?_eq_some_iff {characters : List Char} {address : Address} :
    ofChars? characters = some address ↔
      ∃ digits, characters = '0' :: 'x' :: digits ∧
        digits.mapM hexValue? = some address.digits := by
  constructor
  · intro read
    unfold ofChars? at read
    split at read
    · rename_i digits
      split at read
      · rename_i values same
        split at read
        · obtain rfl := Option.some.inj read
          exact ⟨digits, rfl, same⟩
        · cases read
      · cases read
    · cases read
  · rintro ⟨digits, rfl, values⟩
    simp [ofChars?, values, address.length_digits]

variable (address : Address)

/-- All characters of a checksummed address lie between the digits and the letter x, and none is the
colon that separates the parts of a key. -/
theorem printable_of_mem_checksumChars {character : Char}
    (member : character ∈ address.checksumChars) :
    48 <= character.toNat ∧ character.toNat <= 120 ∧ character ≠ ':' := by
  simp only [checksumChars, List.cons_append, List.nil_append, List.mem_cons] at member
  rcases member with rfl | rfl | member
  · decide
  · decide
  · obtain ⟨index, inside, rfl⟩ := List.mem_iff_getElem.mp member
    simp only [List.getElem_zipWith]
    obtain ⟨first, last, other⟩ := printable_of_hexValue? (hexValue?_checksumDigit _ _)
    exact ⟨first, by omega, fun same => other (by rw [same]; rfl)⟩

/-- A checksummed address has no blanks. -/
theorem isBlank_of_mem_checksumChars {character : Char}
    (member : character ∈ address.checksumChars) : isBlank character = false := by
  obtain ⟨first, last, _⟩ := address.printable_of_mem_checksumChars member
  exact isBlank_of_printable (by omega) (by omega)

/-- There is nothing to trim from a checksummed address. -/
theorem trimChars_checksumChars : trimChars address.checksumChars = address.checksumChars :=
  trimChars_of_solid fun _ => address.isBlank_of_mem_checksumChars

@[simp] theorem toList_checksummed : address.checksummed.toList = address.checksumChars := by
  simp [checksummed]

/-- No blank stands around the checksummed spelling. -/
@[simp] theorem trim_checksummed : trim address.checksummed = address.checksummed := by
  rw [trim, toList_checksummed, trimChars_checksumChars, checksummed]

/-- The normal form of an address reads back as the address. -/
@[simp] theorem parse?_checksummed : parse? address.checksummed = some address := by
  rw [parse?, toList_checksummed, trimChars_checksumChars, ofChars?_checksumChars]

/-- An address can be told from its checksummed text. -/
theorem checksummed_injective : Function.Injective checksummed := by
  intro left right same
  have read := congrArg parse? same
  rw [parse?_checksummed, parse?_checksummed] at read
  exact Option.some.inj read

/-- The text of an address is not empty, so it is a query that can match something. -/
theorem checksummed_ne_empty : address.checksummed ≠ "" := by
  intro empty
  have sizes := congrArg (fun text => text.toList.length) empty
  simp at sizes

/-- Blanks around a text do not matter to the address it denotes. -/
@[simp] theorem parse?_trim (text : String) : parse? (trim text) = parse? text := by
  rw [parse?, parse?, toList_trim, trimChars_trimChars]

/-- A text that denotes an address is not blank. -/
theorem trim_not_empty {text : String} {parsed : Address} (read : parse? text = some parsed) :
    (trim text).isEmpty = false := by
  by_contra blank
  have empty : trim text = "" := by simpa using blank
  rw [← parse?_trim, empty] at read
  cases read

/-- Letter case does not matter to an address, the leading `0x` aside. -/
theorem parse?_lowerAscii {text : String} {parsed : Address} (read : parse? text = some parsed) :
    parse? (lowerAscii text) = some parsed := by
  rw [parse?, ofChars?_eq_some_iff] at read
  obtain ⟨digits, spelled, values⟩ := read
  have marks : lowerAsciiChar '0' = '0' ∧ lowerAsciiChar 'x' = 'x' := by decide
  rw [parse?, toList_lowerAscii, trimChars_map isBlank_lowerAsciiChar, spelled, ofChars?_eq_some_iff]
  refine ⟨digits.map lowerAsciiChar, by simp [marks], ?_⟩
  simpa [List.mapM_map, Function.comp_def] using values

/-- The texts of an address: `0x` and digits with the values of its own, and blanks around them. -/
theorem parse?_eq_some_iff {text : String} {parsed : Address} :
    parse? text = some parsed ↔
      ∃ before digits after, (∀ character ∈ before, isBlank character = true) ∧
        (∀ character ∈ after, isBlank character = true) ∧
        text.toList = before ++ '0' :: 'x' :: digits ++ after ∧
        digits.mapM hexValue? = some parsed.digits := by
  rw [parse?, ofChars?_eq_some_iff]
  constructor
  · rintro ⟨digits, spelled, values⟩
    obtain ⟨before, after, blankBefore, blankAfter, split⟩ := exists_trimmed text.toList
    rw [spelled] at split
    exact ⟨before, digits, after, blankBefore, blankAfter, split, values⟩
  · rintro ⟨before, digits, after, blankBefore, blankAfter, split, values⟩
    refine ⟨digits, ?_, values⟩
    have marks : isBlank '0' = false ∧ isBlank 'x' = false := by decide
    have solid : ∀ character ∈ digits, isBlank character = false := fun character member => by
      obtain ⟨digit, _, value⟩ := exists_of_mem_forall₂ (mapM_eq_some_iff.mp values).flip member
      exact isBlank_of_hexValue? value
    rw [split, trimChars_surrounded blankBefore blankAfter]
    exact trimChars_of_solid
      (List.forall_mem_cons.mpr ⟨marks.1, List.forall_mem_cons.mpr ⟨marks.2, solid⟩⟩)

/-- The text of an address has nothing but blanks, `0x` and digits. -/
theorem not_mem_of_parse? {text : String} {parsed : Address} (read : parse? text = some parsed)
    {mark : Char} (notBlank : isBlank mark = false) (notLeading : mark ∉ ['0', 'x'])
    (noDigit : hexValue? mark = none) : mark ∉ text.toList := by
  rw [parse?, ofChars?_eq_some_iff] at read
  obtain ⟨digits, spelled, values⟩ := read
  have notAmong : mark ∉ digits := fun member => by
    obtain ⟨digit, _, value⟩ := exists_of_mem_forall₂ (mapM_eq_some_iff.mp values).flip member
    cases noDigit.symm.trans value
  rw [← mem_trimChars_iff notBlank, spelled]
  simpa [notAmong] using notLeading

/-- The text of an address has no colon. -/
theorem colon_not_mem_of_parse? {text : String} {parsed : Address}
    (read : parse? text = some parsed) : ':' ∉ text.toList :=
  not_mem_of_parse? read (by decide) (by decide) (by decide)

/-- The digits in lower case are a text of the address. -/
theorem parse?_lowerText (address : Address) : parse? address.lowerText = some address := by
  have value : ∀ digit : Fin 16, hexValue? (hexDigit digit) = some digit := by decide
  refine parse?_eq_some_iff.mpr ⟨[], address.lowerDigits, [], nofun, nofun, by simp [lowerText], ?_⟩
  rw [mapM_eq_some_iff, lowerDigits, List.forall₂_map_left_iff]
  exact List.forall₂_same.mpr fun digit _ => value digit

/-- An address can be told from its text in small letters too. -/
theorem lowerText_injective : Function.Injective lowerText := by
  intro left right same
  exact Option.some.inj ((parse?_lowerText left).symm.trans (same ▸ parse?_lowerText right))

/-- The only address that a spelling of zero denotes is the zero address. -/
theorem eq_zero_of_lowerAscii {text : String} {parsed : Address} (read : parse? text = some parsed)
    (spelling : lowerAscii text = zero.lowerText) : parsed = zero := by
  have lowered := parse?_lowerAscii read
  rw [spelling] at lowered
  exact Option.some.inj (lowered.symm.trans zero.parse?_lowerText)

end Address

end ContractAtlas

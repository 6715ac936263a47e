import ContractAtlas.Proofs.Store.DirectoryName

/-!
# Addresses that match a name

The text of an address matches every directory name that encodes a key with the address, in either
mode and in every spelling (`KeyMatch.accepts_of_encodedBy`). In exact mode it is compared as an
address; in the other one it is contained in the name up to letter case, since it has the same
digits as the address in the name. -/

namespace ContractAtlas

namespace Text

/-- What is left after trimming stands in the text. -/
theorem infix_trimChars (characters : List Char) : trimChars characters <:+: characters :=
  (trimEndChars_isPrefix _).isInfix.trans (List.dropWhile_suffix _).isInfix

/-- The lower-case partner of a hexadecimal digit is the digit that is written for its value. -/
theorem lowerAsciiChar_of_hexValue? {character : Char} {digit : Fin 16}
    (value : hexValue? character = some digit) : lowerAsciiChar character = hexDigit digit := by
  have table : ∀ code : Fin 103, ∀ digit ∈ hexValue? (Char.ofNat code),
      lowerAsciiChar (Char.ofNat code) = hexDigit digit := by
    decide
  have last := (printable_of_hexValue? value).2.1
  have same := table ⟨character.toNat, by omega⟩ digit
  simp only [Char.ofNat_toNat] at same
  exact same value

/-- The lower case of hexadecimal digits is their plain spelling. -/
theorem map_lowerAsciiChar_of_mapM {characters : List Char} {digits : List (Fin 16)}
    (values : characters.mapM hexValue? = some digits) :
    characters.map lowerAsciiChar = digits.map hexDigit := by
  have each := (mapM_eq_some_iff.mp values).imp fun _ _ => lowerAsciiChar_of_hexValue?
  rwa [← List.forall₂_map_right_iff, ← List.forall₂_map_left_iff, List.forall₂_eq_eq_eq] at each

end Text

open Text

namespace Address

/-- Letter case and blanks aside, the only text of an address is its digits. -/
theorem lowerAscii_trim_of_parse? {text : String} {address : Address}
    (read : parse? text = some address) : lowerAscii (trim text) = address.lowerText := by
  rw [parse?, ofChars?_eq_some_iff] at read
  obtain ⟨digits, spelled, values⟩ := read
  have marks : lowerAsciiChar '0' = '0' ∧ lowerAsciiChar 'x' = 'x' := by decide
  rw [← String.toList_inj, toList_lowerAscii, toList_trim, spelled, lowerText,
    String.toList_ofList, lowerDigits]
  simp [marks, map_lowerAsciiChar_of_mapM values]

end Address

/-- The text of an address is part of every name that encodes a key with the address. -/
theorem SessionKey.EncodedBy.lowerText_infix {key : SessionKey} {name : String}
    (encoded : key.EncodedBy name) :
    key.address.lowerText.toList <:+: (lowerAscii name).toList := by
  obtain ⟨contractName, encodes⟩ := encoded
  obtain ⟨_, text, read, spelled⟩ := ofDirectoryName?_eq_some_iff.mp encodes
  have part : text.toList <:+: name.toList :=
    ⟨key.network.toList ++ [':'],
      (contractName.map fun later => ':' :: later.toList).getD [], by simp [spelled]⟩
  rw [← Address.lowerAscii_trim_of_parse? read, toList_lowerAscii, toList_lowerAscii, toList_trim]
  exact ((infix_trimChars text.toList).trans part).map lowerAsciiChar

/-- In exact mode the text of an address accepts the names that encode a key with the address, on
any network. -/
theorem KeyMatch.accepts_exact_of_parse? {query name : String} {address : Address}
    (read : Address.parse? query = some address) :
    KeyMatch.exact.accepts query name = true ↔
      ∃ key : SessionKey, key.EncodedBy name ∧ key.address = address := by
  have noColon : ':' ∉ (trim query).toList :=
    Address.colon_not_mem_of_parse? ((Address.parse?_trim query).trans read)
  simp only [accepts, Address.trim_not_empty read, Bool.false_eq_true, if_false, matchesExactly,
    SessionKey.ofDirectoryName?_of_not_mem noColon, Address.parse?_trim, read,
    SessionKey.EncodedBy]
  cases SessionKey.ofDirectoryName? name with
  | none => simp
  | some encoded =>
      obtain ⟨key, contractName⟩ := encoded
      simp [eq_comm]

/-- The text of an address matches every name that encodes a key with the address. -/
theorem KeyMatch.accepts_of_encodedBy (mode : KeyMatch) {query name : String} {key : SessionKey}
    (read : Address.parse? query = some key.address) (encoded : key.EncodedBy name) :
    mode.accepts query name = true := by
  cases mode with
  | substring =>
      simp only [accepts, Address.trim_not_empty read, Bool.false_eq_true, if_false,
        matchesSubstring, contains, containsChars_eq_true_iff,
        Address.lowerAscii_trim_of_parse? read]
      exact encoded.lowerText_infix
  | exact => exact (accepts_exact_of_parse? read).mpr ⟨key, encoded, rfl⟩

end ContractAtlas

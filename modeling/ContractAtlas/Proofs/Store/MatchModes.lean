import ContractAtlas.Proofs.Store.Naming

/-!
# The two ways to match a name

Both modes find a directory by the address of its key. In exact mode that is all; otherwise a text
that occurs in the network or in the contract's name is found too. It never occurs anywhere else:
the text of an address has no colon, so it lies within one part of the name, and it is as long as
the address in there. `match_modes_differ_exactly` says this for every name that is made from a key,
and that an exact match is always a match. -/

namespace ContractAtlas

open Text

namespace Text

/-- Whether a text occurs in another one, ASCII letter case aside. -/
def OccursIn (pattern text : String) : Prop :=
  ∃ before part after : String, text = before ++ part ++ after ∧
    lowerAscii part = lowerAscii pattern

/-- A pattern occurs in a text exactly when its lower case stands in that of the text. -/
theorem occursIn_iff_isInfix {pattern text : String} :
    OccursIn pattern text ↔ (lowerAscii pattern).toList <:+: (lowerAscii text).toList := by
  rw [toList_lowerAscii text, List.infix_map_iff]
  constructor
  · rintro ⟨before, part, after, rfl, same⟩
    exact ⟨part.toList, ⟨before.toList, after.toList, by simp⟩, by
      rw [← same, toList_lowerAscii]⟩
  · rintro ⟨part, ⟨before, after, spelled⟩, same⟩
    refine ⟨String.ofList before, String.ofList part, String.ofList after, ?_, ?_⟩
    · exact String.toList_inj.mp (by simp [spelled])
    · exact String.toList_inj.mp (by simp [same])

/-- What occurs in a text that is cut at a separator, and does not contain it, occurs on one of the
two sides. -/
theorem infix_append_cons_iff {separator : Char} {pattern before after : List Char}
    (absent : separator ∉ pattern) :
    pattern <:+: before ++ separator :: after ↔ pattern <:+: before ∨ pattern <:+: after := by
  have notAcross {rest : List Char} (begins : rest <+: separator :: after)
      (part : ∀ character ∈ rest, character ∈ pattern) : rest = [] := by
    rcases List.prefix_cons_iff.mp begins with rfl | ⟨later, rfl, _⟩
    · rfl
    · exact absurd (part separator List.mem_cons_self) absent
  constructor
  · intro occurs
    obtain within | within | ⟨ends, begins, rfl, suffix, start⟩ := List.infix_append_iff.mp occurs
    · exact .inl within
    · rcases List.infix_cons_iff.mp within with begins | within
      · obtain rfl := notAcross begins fun _ member => member
        exact .inl List.nil_infix
      · exact .inr within
    · obtain rfl := notAcross start fun _ member => List.mem_append_right _ member
      exact .inl (by simpa using suffix.isInfix)
  · rintro (within | within)
    · exact within.trans (List.prefix_append _ _).isInfix
    · exact within.trans ((List.suffix_cons _ _).trans (List.suffix_append _ _)).isInfix

end Text

namespace Address

/-- The lower case of the checksummed spelling is the plain one. -/
theorem lowerAscii_checksummed (address : Address) :
    lowerAscii address.checksummed = address.lowerText := by
  simpa using lowerAscii_trim_of_parse? address.parse?_checksummed

/-- The plain spelling has forty-two characters. -/
@[simp] theorem length_lowerText (address : Address) :
    address.lowerText.toList.length = 42 := by
  simp [lowerText, lowerDigits, address.length_digits]

/-- An address occurs in a text exactly when its plain spelling stands in the lower case of the
text. -/
theorem occursIn_iff {address : Address} {text : String} :
    OccursIn address.checksummed text ↔
      address.lowerText.toList <:+: (lowerAscii text).toList := by
  rw [occursIn_iff_isInfix, lowerAscii_checksummed]

/-- The text of an address occurs in that of another one only if it is the same. -/
theorem occursIn_checksummed_iff {address other : Address} :
    OccursIn address.checksummed other.checksummed ↔ address = other := by
  rw [occursIn_iff, lowerAscii_checksummed]
  constructor
  · intro occurs
    exact lowerText_injective (String.toList_inj.mp (occurs.eq_of_length (by simp)))
  · rintro rfl
    exact List.infix_rfl

/-- No address occurs in an empty text. -/
theorem not_occursIn_empty (address : Address) : ¬ OccursIn address.checksummed "" := by
  rw [occursIn_iff]
  intro occurs
  have short := occurs.length_le
  rw [length_lowerText] at short
  simp at short

/-- The text of an address occurs in a text with a colon only on one side of it. -/
theorem occursIn_colon_iff {address : Address} {before after : String} :
    OccursIn address.checksummed (before ++ ":" ++ after) ↔
      OccursIn address.checksummed before ∨ OccursIn address.checksummed after := by
  have plain : ':' ∉ address.lowerText.toList := by
    rw [← lowerAscii_checksummed]
    exact colon_not_mem_of_parse? (parse?_lowerAscii address.parse?_checksummed)
  have colon : lowerAsciiChar ':' = ':' := by decide
  rw [occursIn_iff, occursIn_iff, occursIn_iff, ← infix_append_cons_iff plain]
  simp [colon]

end Address

/-- The text of an address occurs in the directory name of a key just as the address of the key, in
the network, or in the contract's name. -/
theorem SessionKey.occursIn_directoryName_iff {key : SessionKey} {contractName : String}
    {address : Address} :
    OccursIn address.checksummed (key.directoryName contractName) ↔
      address = key.address ∨ OccursIn address.checksummed key.network ∨
        OccursIn address.checksummed contractName := by
  have shown : OccursIn address.checksummed key.display ↔
      OccursIn address.checksummed key.network ∨ address = key.address := by
    rw [display, Address.occursIn_colon_iff, checksummedAddress,
      Address.occursIn_checksummed_iff]
  by_cases unnamed : contractName = ""
  · rw [directoryName, if_pos (by simpa using unnamed), shown, unnamed]
    simp [address.not_occursIn_empty, or_comm]
  · rw [directoryName, if_neg (by simpa using unnamed), Address.occursIn_colon_iff, shown,
      or_comm (b := address = key.address), or_assoc]

/-- The network can be told from the address in the display of the key: it has no colon and does not
start with a blank. -/
structure SessionKey.HasPlainNetwork (key : SessionKey) : Prop where
  noColon : ':' ∉ key.network.toList
  solid : ∀ character ∈ key.network.toList.head?, isBlank character = false

namespace KeyMatch

/-- In the loose mode a name is accepted exactly when the address occurs in it. -/
theorem accepts_substring_checksummed {address : Address} {name : String} :
    KeyMatch.substring.accepts address.checksummed name = true ↔
      OccursIn address.checksummed name := by
  have nonempty : address.checksummed.isEmpty = false := by simp [Address.checksummed_ne_empty]
  simp only [accepts, Address.trim_checksummed, nonempty, Bool.false_eq_true, if_false,
    matchesSubstring, contains, containsChars_eq_true_iff, occursIn_iff_isInfix]

/-- On the directory name of a key, an exact match finds the address and the display of the key and
nothing else, and a substring match finds besides only the addresses that occur in the network or in
the contract's name. Whatever an address matches exactly it matches as a substring too, in any
spelling and in every name. -/
theorem match_modes_differ_exactly :
    (∀ (key other : SessionKey) (contractName : String) (address : Address),
      key.HasPlainNetwork → other.HasPlainNetwork →
        let name := key.directoryName contractName
        (KeyMatch.exact.accepts address.checksummed name = true ↔ address = key.address) ∧
        (KeyMatch.exact.accepts other.display name = true ↔ other = key) ∧
        (KeyMatch.substring.accepts address.checksummed name = true ↔
          address = key.address ∨ OccursIn address.checksummed key.network ∨
            OccursIn address.checksummed contractName)) ∧
    (∀ text name : String, (Address.normalize? text).isSome = true →
      KeyMatch.exact.accepts text name = true → KeyMatch.substring.accepts text name = true) := by
  refine ⟨fun key other contractName address plain plainToo => ⟨?_, ?_, ?_⟩,
    fun text name isAddress accepted => ?_⟩
  · have encoded := SessionKey.encodedBy_directoryName plain.noColon contractName
    rw [accepts_exact_of_parse? address.parse?_checksummed]
    constructor
    · rintro ⟨found, encodedToo, rfl⟩
      rw [encoded.unique encodedToo]
    · rintro rfl
      exact ⟨key, encoded, rfl⟩
  · have encoded := SessionKey.encodedBy_directoryName plain.noColon contractName
    rw [accepts_exact_display_of_plain plainToo.noColon plainToo.solid]
    exact ⟨fun encodedToo => encodedToo.unique encoded, fun same => same ▸ encoded⟩
  · rw [accepts_substring_checksummed, SessionKey.occursIn_directoryName_iff]
  · obtain ⟨address, read⟩ : ∃ address, Address.parse? text = some address := by
      rwa [Address.normalize?, Option.isSome_map, Option.isSome_iff_exists] at isAddress
    obtain ⟨key, encoded, rfl⟩ := (accepts_exact_of_parse? read).mp accepted
    exact accepts_of_encodedBy .substring read encoded

/-- A contract's name with another address in it, a key without a network, and an address with
blanks around it in a name that the library does not make. -/
theorem match_modes_differ_exactly_stray :
    let ones : Address := ⟨List.replicate 40 ⟨1, by decide⟩, rfl⟩
    let twos : Address := ⟨List.replicate 40 ⟨2, by decide⟩, rfl⟩
    let key : SessionKey := ⟨"bsc", ones⟩
    let other : SessionKey := ⟨"", ones⟩
    let contractName := "Proxy:0X2222222222222222222222222222222222222222"
    let name := key.directoryName contractName
    let padded := "0x1111111111111111111111111111111111111111 "
    let foreignName := " :\t0x1111111111111111111111111111111111111111 :"
    (key.HasPlainNetwork ∧ other.HasPlainNetwork ∧
      ¬ KeyMatch.exact.accepts twos.checksummed name = true ∧
      KeyMatch.substring.accepts twos.checksummed name = true ∧
      ¬ KeyMatch.exact.accepts other.display name = true) ∧
    ((Address.normalize? padded).isSome = true ∧
      KeyMatch.exact.accepts padded foreignName = true ∧
      KeyMatch.substring.accepts padded foreignName = true) := by
  intro ones twos key other contractName name padded foreignName
  obtain ⟨madeNames, allNames⟩ := match_modes_differ_exactly
  have plain : key.HasPlainNetwork :=
    ⟨by decide, Network.isBlank_head?_of_isSupported (by decide)⟩
  have plainToo : other.HasPlainNetwork := ⟨by decide, by simp [other]⟩
  have apart : ¬ twos = key.address := by decide
  have apartToo : ¬ other = key := by decide
  have stray : OccursIn twos.checksummed contractName :=
    ⟨"Proxy:", "0X2222222222222222222222222222222222222222", "", by decide, by decide⟩
  have isAddress : (Address.normalize? padded).isSome = true := by decide
  have accepted : KeyMatch.exact.accepts padded foreignName = true := by decide
  obtain ⟨byAddress, byDisplay, bySubstring⟩ := madeNames key other contractName twos
    plain plainToo
  exact ⟨⟨plain, plainToo, mt byAddress.mp apart, bySubstring.mpr (.inr (.inr stray)),
    mt byDisplay.mp apartToo⟩, isAddress, accepted, allNames padded foreignName isAddress accepted⟩

end KeyMatch

end ContractAtlas

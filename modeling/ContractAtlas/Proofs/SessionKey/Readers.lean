import ContractAtlas.Proofs.Address.NormalForm
import ContractAtlas.Proofs.Store.DirectoryName

/-!
# The two readers of keys

`parse` reads what a person types and `ofDirectoryName?` the name of a directory. They split a text
alike and differ in two things only: `parse` takes blanks around the text and a bare address, and it
insists on a supported network. `parse_eq_ok_iff` says what `parse` reads in terms of the other
reader, and `key_texts_agree` puts this together with the texts that keys and addresses are written
as.
-/

namespace ContractAtlas

open Text

/-- Blanks at the end of a text do not matter to the address that it denotes. -/
theorem Address.parse?_trimEnd (text : String) :
    parse? (String.ofList (trimEndChars text.toList)) = parse? text := by
  obtain ⟨after, blankAfter, split⟩ := exists_trimmedEnd text.toList
  have surrounded := trimChars_surrounded (List.forall_mem_nil _) blankAfter
    (trimEndChars text.toList)
  rw [List.nil_append, ← split] at surrounded
  rw [parse?, parse?, String.toList_ofList, surrounded]

namespace SessionKey

/-- Parts give a key exactly when the network is supported and the text denotes the address. -/
theorem ofParts_eq_ok_iff {network text : String} {key : SessionKey} :
    ofParts network text = .ok key ↔
      Network.isSupported key.network = true ∧ key.network = network ∧
        Address.parse? text = some key.address := by
  unfold ofParts
  dsimp only
  obtain ⟨keyNetwork, keyAddress⟩ := key
  split
  · rename_i supported
    split
    · rename_i address read
      simp only [Except.ok.injEq, SessionKey.mk.injEq, read, Option.some.injEq]
      constructor
      · rintro ⟨rfl, rfl⟩
        exact ⟨supported, rfl, rfl⟩
      · rintro ⟨_, same, sameAddress⟩
        exact ⟨same.symm, sameAddress⟩
    · rename_i unread
      simp [unread]
  · rename_i unsupported
    simp only [reduceCtorEq, false_iff]
    rintro ⟨supported, rfl, _⟩
    exact unsupported supported

/-- A text has a colon and at least two pieces, or none and is one piece. -/
theorem pieces_cases (text : String) :
    ':' ∉ text.toList ∧ pieces text = (text, none, none) ∨
      ':' ∈ text.toList ∧ ∃ first second third, pieces text = (first, some second, third) := by
  by_cases member : ':' ∈ text.toList
  · obtain ⟨before, after, split, absent⟩ := List.eq_append_cons_of_mem member
    refine .inr ⟨member, String.ofList before, _, _, pieces_eq_iff.mpr
      ⟨String.ofList after, splitOnce_eq_iff.mpr ⟨by simpa using absent, by simp [split]⟩, rfl⟩⟩
  · exact .inl ⟨member, pieces_of_not_mem member⟩

/-- A target is a bare address, which belongs to the default network, or blanks around it aside a
directory name on a supported network. -/
theorem parse_eq_ok_iff {target : String} {key : SessionKey} :
    parse target = .ok key ↔
      Network.isSupported key.network = true ∧
        (':' ∉ target.toList ∧ key.network = Network.defaultName ∧
            Address.parse? target = some key.address ∨
          key.EncodedBy (trim target)) := by
  have solid : isBlank ':' = false := by decide
  have sameColons : ':' ∈ (trim target).toList ↔ ':' ∈ target.toList := by
    rw [toList_trim, mem_trimChars_iff solid]
  rw [parse]
  obtain ⟨absent, bare⟩ | ⟨member, network, text, contractName, split⟩ := pieces_cases (trim target)
  · have noName : ¬ key.EncodedBy (trim target) := by
      rintro ⟨_, encodes⟩
      rw [ofDirectoryName?_of_not_mem absent] at encodes
      cases encodes
    simp [bare, ofParts_eq_ok_iff, noName, mt sameColons.mpr absent]
  · have encoded_iff : key.EncodedBy (trim target) ↔
        key.network = network ∧ Address.parse? text = some key.address := by
      obtain ⟨keyNetwork, keyAddress⟩ := key
      simp [EncodedBy, ofDirectoryName?, split, and_comm, eq_comm (a := network)]
    simp [split, ofParts_eq_ok_iff, encoded_iff, sameColons.mp member]

/-- A name that encodes a key still does so without the blanks around it, unless the network starts
with a blank. -/
theorem EncodedBy.trim {key : SessionKey} {name : String} (encoded : key.EncodedBy name)
    (solid : ∀ character ∈ key.network.toList.head?, isBlank character = false) :
    key.EncodedBy (Text.trim name) := by
  obtain ⟨contractName, encodes⟩ := encoded
  obtain ⟨plain, text, read, spelled⟩ := ofDirectoryName?_eq_some_iff.mp encodes
  have colon : isBlank ':' = false := by decide
  have first : ∀ character ∈ name.toList.head?, isBlank character = false := by
    rw [spelled]
    cases network : key.network.toList with
    | nil => simpa using colon
    | cons character later => simpa [network] using solid
  have trimmed : (Text.trim name).toList = key.network.toList ++ ':' :: trimEndChars
      (text.toList ++ (contractName.map fun later => ':' :: later.toList).getD []) := by
    rw [toList_trim, trimChars, trimStartChars_eq_self first, spelled,
      trimEndChars_append_cons colon]
  cases contractName with
  | none =>
      refine ⟨none, ofDirectoryName?_eq_some_iff.mpr
        ⟨plain, String.ofList (trimEndChars text.toList), ?_, by simpa using trimmed⟩⟩
      rw [Address.parse?_trimEnd, read]
  | some later =>
      refine ⟨some (String.ofList (trimEndChars later.toList)),
        ofDirectoryName?_eq_some_iff.mpr ⟨plain, text, read, ?_⟩⟩
      simpa [trimEndChars_append_cons colon] using trimmed

/-- A directory name on a supported network is a target with the same key. -/
theorem EncodedBy.parse_eq {key : SessionKey} {name : String} (encoded : key.EncodedBy name)
    (supported : Network.isSupported key.network = true) : parse name = .ok key :=
  parse_eq_ok_iff.mpr
    ⟨supported, .inr (encoded.trim (Network.isBlank_head?_of_isSupported supported))⟩

/-- Keys and addresses are read as they are written, and the readers agree. A directory name gives
back the key and the contract's name that it was made from; a text is read as a target exactly if it
is a bare address on the default network or, blanks aside, a directory name on a supported network;
and every directory name on a supported network is a target with the same key. Addresses have normal
forms. -/
theorem key_texts_agree :
    (∀ (key : SessionKey) (contractName : String), ':' ∉ key.network.toList →
      ofDirectoryName? (key.directoryName contractName) =
        some (key, if contractName = "" then none else some contractName)) ∧
    (∀ (target : String) (key : SessionKey), parse target = .ok key ↔
      Network.isSupported key.network = true ∧
        (':' ∉ target.toList ∧ key.network = Network.defaultName ∧
            Address.parse? target = some key.address ∨
          key.EncodedBy (trim target))) ∧
    (∀ (name : String) (key : SessionKey) (contractName : Option String),
      ofDirectoryName? name = some (key, contractName) →
        Network.isSupported key.network = true → parse name = .ok key) ∧
    Address.IsNormalForm Address.normalize? :=
  ⟨fun _ contractName plain => ofDirectoryName?_directoryName plain contractName,
    fun _ _ => parse_eq_ok_iff,
    fun _ _ contractName encodes => EncodedBy.parse_eq ⟨contractName, encodes⟩,
    Address.isNormalForm_normalize?⟩

/-- A name with colons in it, a padded target, a padded address within a directory name, and two
spellings of one address. -/
theorem key_texts_agree_padded :
    let key : SessionKey := ⟨"bsc", ⟨List.replicate 40 ⟨10, by decide⟩, rfl⟩⟩
    let target := " bsc:0xaaaaaaaaaaaaaaaaaaaaaaaaaaaaaaaaaaaaaaaa:Vault:V2\n"
    let name := "bsc: 0xAAAAAAAAAAAAAAAAAAAAAAAAAAAAAAAAAAAAAAAA\t:"
    let spelled := "0xaaaaaaaaaaaaaaaaaaaaaaaaaaaaaaaaaaaaaaaa"
    let padded := "\u00a00xAAAAAAAAAAAAAAAAAAAAAAAAAAAAAAAAAAAAAAAA "
    let bytes : List UInt8 := List.replicate 20 0xaa
    (':' ∉ key.network.toList ∧
      ofDirectoryName? (key.directoryName "Vault:V2") = some (key, some "Vault:V2")) ∧
    (parse target = .ok key ∧ Network.isSupported key.network = true ∧
      key.EncodedBy (trim target)) ∧
    (ofDirectoryName? name = some (key, some "") ∧ parse name = .ok key) ∧
    (Address.DenotesBytes spelled bytes ∧ Address.DenotesBytes padded bytes ∧
      Address.normalize? spelled = Address.normalize? padded) := by
  intro key target name spelled padded bytes
  obtain ⟨written, targets, names, normal⟩ := key_texts_agree
  have plain : ':' ∉ key.network.toList := by decide
  have read : parse target = .ok key := by decide +kernel
  have colon : ':' ∈ target.toList := by decide
  have encodes : ofDirectoryName? name = some (key, some "") := by decide +kernel
  have supported : Network.isSupported key.network = true := by decide
  have denotes : Address.DenotesBytes spelled bytes :=
    Address.denotesBytes_iff.mpr ⟨key.address, by decide +kernel, by decide⟩
  have denotesToo : Address.DenotesBytes padded bytes :=
    Address.denotesBytes_iff.mpr ⟨key.address, by decide +kernel, by decide⟩
  obtain ⟨_, ⟨absent, _⟩ | encoded⟩ := (targets target key).mp read
  · exact absurd colon absent
  · exact ⟨⟨plain, written key "Vault:V2" plain⟩, ⟨read, supported, encoded⟩,
      ⟨encodes, names name key _ encodes supported⟩,
      ⟨denotes, denotesToo, (normal.eq_iff denotes denotesToo).mpr rfl⟩⟩

end SessionKey

end ContractAtlas

import ContractAtlas.Files.Tree
import ContractAtlas.Proofs.Files.Path
import ContractAtlas.Proofs.SessionKey
import ContractAtlas.Store.KeyMatch

/-!
# Names of session directories

The directory that a key and a contract's name stand for can be the name of a directory entry unless
the network or the contract's name has a slash or NUL. It is as long as the two together and a fixed
rest. On a supported network the name encodes the key, and in exact mode the display of a key
accepts just the names that encode it.
-/

namespace ContractAtlas

open Text

/-- Whether a session directory can have a name. -/
structure IsDirectoryName (name : String) : Prop where
  isName : Path.IsName name
  short : name.utf8ByteSize <= FileTree.nameLimit

namespace SessionKey

/-- The characters of a directory name: the network, the address, and the contract's name if there
is one. -/
theorem toList_directoryName (key : SessionKey) (contractName : String) :
    (key.directoryName contractName).toList =
      key.network.toList ++ ':' :: key.address.checksumChars ++
        (if contractName = "" then [] else ':' :: contractName.toList) := by
  rw [directoryName]
  by_cases unnamed : contractName = ""
  · simp [unnamed, toList_display]
  · simp [unnamed, toList_display]

/-- A key and a contract's name without slash and NUL make a name. -/
theorem isName_directoryName {key : SessionKey} {contractName : String}
    (networkNoSlash : '/' ∉ key.network.toList) (networkNoNul : '\x00' ∉ key.network.toList)
    (noSlash : '/' ∉ contractName.toList) (noNul : '\x00' ∉ contractName.toList) :
    Path.IsName (key.directoryName contractName) := by
  have colon : ':' ∈ (key.directoryName contractName).toList := by
    simp [toList_directoryName]
  have plain (character : Char) (below : character.toNat < 48)
      (inNetwork : character ∉ key.network.toList) (inName : character ∉ contractName.toList) :
      character ∉ (key.directoryName contractName).toList := by
    have apart : character ≠ ':' := by
      rintro rfl
      exact absurd below (by decide)
    have inAddress : character ∉ key.address.checksumChars := fun member =>
      absurd (key.address.printable_of_mem_checksumChars member).1 (by omega)
    rw [toList_directoryName]
    split <;> simp [inNetwork, inName, inAddress, apart]
  refine ⟨?_, ?_, ?_, plain '/' (by decide) networkNoSlash noSlash,
    plain '\x00' (by decide) networkNoNul noNul⟩
  all_goals
    intro same
    rw [same] at colon
    exact absurd colon (by decide)

/-- The text of a key is longer than that of its network by the colon and the address. -/
theorem utf8ByteSize_display (key : SessionKey) :
    key.display.utf8ByteSize = key.network.utf8ByteSize + 43 := by
  have ascii (characters : List Char) (small : ∀ character ∈ characters, character.toNat <= 120) :
      (String.ofList characters).utf8ByteSize = characters.length := by
    induction characters with
    | nil => rfl
    | cons character later inductionHypothesis =>
        obtain ⟨first, smallLater⟩ := List.forall_mem_cons.mp small
        have size : character.utf8Size = 1 := by
          rw [Char.utf8Size_eq_one_iff, UInt32.le_iff_toNat_le]
          exact first.trans (by decide)
        simp [String.ofList_cons, size, inductionHypothesis smallLater, Nat.add_comm]
  have address : key.checksummedAddress.utf8ByteSize = 42 := by
    rw [checksummedAddress, Address.checksummed, ascii _ fun character member =>
      (key.address.printable_of_mem_checksumChars member).2.1, Address.length_checksumChars]
  have colon : ":".utf8ByteSize = 1 := rfl
  simp [display, String.utf8ByteSize_append, address, colon]

/-- A short network and a short contract's name make a short directory name. -/
theorem isDirectoryName_directoryName {key : SessionKey} {contractName : String}
    (isName : Path.IsName (key.directoryName contractName))
    (short : key.network.utf8ByteSize + 44 + contractName.utf8ByteSize <= FileTree.nameLimit) :
    IsDirectoryName (key.directoryName contractName) := by
  refine ⟨isName, ?_⟩
  have colon : ":".utf8ByteSize = 1 := rfl
  rw [directoryName]
  split
  · rw [utf8ByteSize_display]
    omega
  · rw [String.utf8ByteSize_append, String.utf8ByteSize_append, utf8ByteSize_display, colon]
    omega

/-! ## Names that encode a key -/

/-- Whether a directory name encodes a key. -/
def EncodedBy (key : SessionKey) (name : String) : Prop :=
  ∃ contractName, ofDirectoryName? name = some (key, contractName)

/-- A name encodes one key at most. -/
theorem EncodedBy.unique {key other : SessionKey} {name : String} (encoded : key.EncodedBy name)
    (encodedToo : other.EncodedBy name) : key = other := by
  obtain ⟨_, read⟩ := encoded
  obtain ⟨_, readToo⟩ := encodedToo
  exact congrArg Prod.fst (Option.some.inj (read.symm.trans readToo))

/-- The directory name of a key and a contract's name gives both back, unless the network has a
colon. -/
theorem ofDirectoryName?_directoryName {key : SessionKey} (plain : ':' ∉ key.network.toList)
    (contractName : String) :
    ofDirectoryName? (key.directoryName contractName) =
      some (key, if contractName = "" then none else some contractName) := by
  refine ofDirectoryName?_eq_some_iff.mpr
    ⟨plain, key.checksummedAddress, key.address.parse?_checksummed, ?_⟩
  rw [toList_directoryName]
  split <;> simp [checksummedAddress]

/-- The directory name of a key encodes the key, unless its network has a colon. -/
theorem encodedBy_directoryName {key : SessionKey} (plain : ':' ∉ key.network.toList)
    (contractName : String) : key.EncodedBy (key.directoryName contractName) :=
  ⟨_, ofDirectoryName?_directoryName plain contractName⟩

/-- Whatever follows the display of a key and a colon, the name encodes the key, unless the network
has a colon. -/
theorem encodedBy_display_append {key : SessionKey} (plain : ':' ∉ key.network.toList)
    (contractName : String) : key.EncodedBy (key.display ++ ":" ++ contractName) :=
  ⟨some contractName, ofDirectoryName?_eq_some_iff.mpr
    ⟨plain, key.checksummedAddress, key.address.parse?_checksummed, by
      simp [toList_display, checksummedAddress]⟩⟩

/-- The name without the contract's name comes first. -/
theorem display_lt_directoryName (key : SessionKey) {contractName : String}
    (named : contractName ≠ "") : key.display < key.directoryName contractName := by
  have characters : (key.directoryName contractName).toList =
      key.display.toList ++ ':' :: contractName.toList := by
    rw [toList_directoryName, toList_display, if_neg named]
  rw [String.lt_iff_toList_lt, characters]
  refine lt_of_le_of_ne (not_lt.mp List.le_append_left) fun same => ?_
  exact absurd (List.self_eq_append_right.mp same) (List.cons_ne_nil _ _)

end SessionKey

/-- The name of a supported network has printable characters only, and no slash. -/
theorem Network.printable_of_isSupported {name : String} (supported : isSupported name = true) :
    ∀ character ∈ name.toList,
      33 <= character.toNat ∧ character.toNat <= 126 ∧ character ≠ '/' := by
  have printable : ∀ network ∈ Network.supported, network.name.toList.all (fun character =>
      33 <= character.toNat && character.toNat <= 126 && character != '/') = true := by
    decide
  obtain ⟨network, member, same⟩ := List.any_eq_true.mp supported
  have ofNetwork := of_decide_eq_true same ▸ printable network member
  simpa [and_assoc] using ofNetwork

/-- No slash stands in the text of a key on a supported network. -/
theorem SessionKey.slash_not_mem_display {key : SessionKey}
    (supported : Network.isSupported key.network = true) : '/' ∉ key.display.toList := by
  have printable := Network.printable_of_isSupported supported
  rw [toList_display]
  simp only [List.mem_append, List.mem_cons, not_or]
  refine ⟨fun member => (printable '/' member).2.2 rfl, by decide, fun member => ?_⟩
  exact absurd (key.address.printable_of_mem_checksumChars member).1 (by decide)

/-- The display of a key has no blanks around it if its network does not start with one. -/
theorem SessionKey.trim_display {key : SessionKey}
    (solid : ∀ character ∈ key.network.toList.head?, isBlank character = false) :
    trim key.display = key.display := by
  have colon : isBlank ':' = false := by decide
  have first : ∀ character ∈ key.display.toList.head?, isBlank character = false := by
    rw [toList_display]
    cases spelled : key.network.toList with
    | nil => simpa using colon
    | cons character later => simpa [spelled] using solid
  have last : ∀ character ∈ key.display.toList.getLast?, isBlank character = false := by
    intro character ends
    rw [toList_display, List.getLast?_append_of_ne_nil _ (List.cons_ne_nil _ _)] at ends
    rcases List.mem_cons.mp (List.mem_of_getLast? ends) with rfl | member
    · exact colon
    · exact key.address.isBlank_of_mem_checksumChars member
  rw [trim, trimChars_eq_self first last, String.ofList_toList]

/-- The name of a supported network does not start with a blank. -/
theorem Network.isBlank_head?_of_isSupported {name : String}
    (supported : isSupported name = true) :
    ∀ character ∈ name.toList.head?, isBlank character = false := by
  intro character head
  obtain ⟨first, last, _⟩ := printable_of_isSupported supported character
    (List.mem_of_mem_head? head)
  exact isBlank_of_printable first last

/-- In exact mode the display of a key accepts the names that encode the key, unless its network has
a colon or starts with a blank. -/
theorem KeyMatch.accepts_exact_display_of_plain {key : SessionKey}
    (plain : ':' ∉ key.network.toList)
    (solid : ∀ character ∈ key.network.toList.head?, isBlank character = false) {name : String} :
    KeyMatch.exact.accepts key.display name = true ↔ key.EncodedBy name := by
  have nonempty : key.display.isEmpty = false := by
    rw [String.isEmpty_eq_false_iff]
    intro empty
    simpa [SessionKey.toList_display] using congrArg String.toList empty
  rw [accepts, SessionKey.trim_display solid]
  simp only [nonempty, Bool.false_eq_true, if_false, matchesExactly,
    SessionKey.ofDirectoryName?_display plain]
  rw [SessionKey.EncodedBy]
  cases SessionKey.ofDirectoryName? name with
  | none => simp
  | some encoded =>
      obtain ⟨other, contractName⟩ := encoded
      simp [eq_comm]

/-- In exact mode the display of a key on a supported network accepts the names that encode the
key. -/
theorem KeyMatch.accepts_exact_display {key : SessionKey}
    (supported : Network.isSupported key.network = true) {name : String} :
    KeyMatch.exact.accepts key.display name = true ↔ key.EncodedBy name :=
  accepts_exact_display_of_plain (Network.plain_of_isSupported supported).2
    (Network.isBlank_head?_of_isSupported supported)

end ContractAtlas

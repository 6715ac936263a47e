import ContractAtlas.Proofs.Address
import ContractAtlas.Proofs.Text.Splitting
import ContractAtlas.Session

/-!
# Texts of session keys

A directory name is a network without a colon, a text of an address, and possibly a contract's name,
with colons between them (`ofDirectoryName?_eq_some_iff`). So a bare address is no directory name,
and the display of a key is one. The display determines the key, whatever characters its network
has: the normal form of an address has a fixed length, so the colon in front of it is found from the
end. -/

namespace ContractAtlas

open Text

/-- No colon stands in the checksummed spelling of an address. -/
theorem Address.colon_not_mem_checksumChars (address : Address) : ':' ∉ address.checksumChars :=
  fun member => (address.printable_of_mem_checksumChars member).2.2 rfl

/-- The name of a supported network is neither empty nor interrupted by a colon. -/
theorem Network.plain_of_isSupported {name : String} (supported : isSupported name = true) :
    name ≠ "" ∧ ':' ∉ name.toList := by
  have plain : ∀ network ∈ Network.supported, network.name ≠ "" ∧ ':' ∉ network.name.toList := by
    decide
  obtain ⟨network, member, same⟩ := List.any_eq_true.mp supported
  exact of_decide_eq_true same ▸ plain network member

namespace SessionKey

/-- A key made of parts is on a supported network. -/
theorem isSupported_of_ofParts {network address : String} {key : SessionKey}
    (read : ofParts network address = .ok key) : Network.isSupported key.network = true := by
  unfold ofParts at read
  dsimp only at read
  split at read
  · split at read
    · cases read
      assumption
    · cases read
  · cases read

/-- A target is read on a supported network. -/
theorem isSupported_of_parse {target : String} {key : SessionKey}
    (read : parse target = .ok key) : Network.isSupported key.network = true := by
  unfold parse at read
  split at read <;> exact isSupported_of_ofParts read

/-- A text without a colon is one piece. -/
theorem pieces_of_not_mem {text : String} (absent : ':' ∉ text.toList) :
    pieces text = (text, none, none) := by
  simp [pieces, splitOnce, splitOnceChars_of_not_mem absent]

/-- A text without a colon is no directory name of a session. -/
theorem ofDirectoryName?_of_not_mem {text : String} (absent : ':' ∉ text.toList) :
    ofDirectoryName? text = none := by
  simp [ofDirectoryName?, pieces_of_not_mem absent]

/-- An address alone is no directory name. -/
@[simp] theorem ofDirectoryName?_checksummed (address : Address) :
    ofDirectoryName? address.checksummed = none := by
  apply ofDirectoryName?_of_not_mem
  rw [Address.toList_checksummed]
  exact address.colon_not_mem_checksumChars

/-- A text has two pieces or more exactly when it is split at a colon, and what follows the second
colon is the third. -/
theorem pieces_eq_iff {text first second : String} {third : Option String} :
    pieces text = (first, some second, third) ↔
      ∃ later, splitOnce ':' text = (first, some later) ∧
        splitOnce ':' later = (second, third) := by
  unfold pieces
  split
  · rename_i split
    simp [split]
  · rename_i before rest split
    simp only [split, Prod.mk.injEq, Option.some.injEq]
    constructor
    · rintro ⟨rfl, rfl, rfl⟩
      exact ⟨rest, ⟨rfl, rfl⟩, rfl⟩
    · rintro ⟨_, ⟨rfl, rfl⟩, second⟩
      exact ⟨rfl, congrArg Prod.fst second, congrArg Prod.snd second⟩

/-- A directory name encodes a key and a contract's name exactly if it is the network, a text of the
address, and the contract's name if there is one, with colons between them and none in the
network. -/
theorem ofDirectoryName?_eq_some_iff {name : String} {key : SessionKey}
    {contractName : Option String} :
    ofDirectoryName? name = some (key, contractName) ↔
      ':' ∉ key.network.toList ∧ ∃ text, Address.parse? text = some key.address ∧
        name.toList = key.network.toList ++ ':' :: (text.toList ++
          (contractName.map fun later => ':' :: later.toList).getD []) := by
  constructor
  · intro encodes
    unfold ofDirectoryName? at encodes
    split at encodes
    · rename_i network text third split
      obtain ⟨address, read, same⟩ := Option.map_eq_some_iff.mp encodes
      obtain ⟨rfl, rfl⟩ := Prod.mk.inj same
      obtain ⟨later, first, second⟩ := pieces_eq_iff.mp split
      obtain ⟨plain, spelled⟩ := splitOnce_eq_iff.mp first
      refine ⟨plain, text, read, ?_⟩
      simpa [(splitOnce_eq_iff.mp second).2] using spelled
    · cases encodes
  · rintro ⟨plain, text, read, spelled⟩
    have split : pieces name = (key.network, some text, contractName) := by
      refine pieces_eq_iff.mpr ⟨String.ofList (text.toList ++
        (contractName.map fun later => ':' :: later.toList).getD []), ?_, ?_⟩
      · exact splitOnce_eq_iff.mpr ⟨plain, by simpa using spelled⟩
      · exact splitOnce_eq_iff.mpr
          ⟨Address.colon_not_mem_of_parse? read, String.toList_ofList⟩
    simp [ofDirectoryName?, split, read]

/-- The text of a key is its network, a colon and the checksummed address. -/
theorem toList_display (key : SessionKey) :
    key.display.toList = key.network.toList ++ ':' :: key.address.checksumChars := by
  simp [display, checksummedAddress]

/-- The display of a key is a directory name that encodes the key, unless its network has a
colon. -/
theorem ofDirectoryName?_display {key : SessionKey} (plain : ':' ∉ key.network.toList) :
    ofDirectoryName? key.display = some (key, none) :=
  ofDirectoryName?_eq_some_iff.mpr
    ⟨plain, key.checksummedAddress, key.address.parse?_checksummed, by
      simp [toList_display, checksummedAddress]⟩

/-- Different keys have different displays. -/
theorem display_injective : Function.Injective display := by
  intro left right same
  have characters := congrArg String.toList same
  rw [toList_display, toList_display] at characters
  have lengths : (':' :: left.address.checksumChars).length =
      (':' :: right.address.checksumChars).length := by simp
  obtain ⟨networks, addresses⟩ := List.append_inj' characters lengths
  have sameAddress : left.address = right.address := by
    apply Address.checksummed_injective
    simp only [Address.checksummed, (List.cons.inj addresses).2]
  have sameNetwork : left.network = right.network := String.toList_inj.mp networks
  cases left
  cases right
  cases sameAddress
  cases sameNetwork
  rfl

end SessionKey

/-- The key of a session has the address that the session gives for its contract. -/
theorem Session.parse?_contractAddress {session : Session} {key : SessionKey}
    (keyed : session.key = .ok key) :
    Address.parse? session.contractAddress = some key.address := by
  rw [Session.key] at keyed
  cases read : Address.parse? session.contractAddress with
  | none => rw [read] at keyed; cases keyed
  | some address => rw [read] at keyed; cases keyed; rfl

end ContractAtlas

import ContractAtlas.Address
import ContractAtlas.Network

/-!
# Session keys

A session is identified by a network and an address. The key is displayed as `network:address` with
the checksummed address, and the directory of a session adds `:name` when the contract has a name.
`parse` reads what a person types and insists on a supported network; `ofDirectoryName?` reads the
name of a directory and takes any network, so directories of older downloads keep their key.
-/

namespace ContractAtlas

open Text

/-- The key of a session. -/
structure SessionKey where
  network : String
  address : Address
deriving DecidableEq

/-- Why a text is not a target. -/
inductive TargetFault where
  | unsupportedNetwork (network : String)
  | notAnAddress
  | noContractAddress
deriving DecidableEq, Repr

/-- The wording of a fault. -/
def TargetFault.message : TargetFault -> String
  | .unsupportedNetwork network => "unsupported network `" ++ network ++ "`"
  | .notAnAddress => "expected a 0x-prefixed 40 hex character address"
  | .noContractAddress => "session has no valid contract_address"

/-- A text that is not a target, with the fault. -/
structure InvalidTarget where
  target : String
  fault : TargetFault
deriving DecidableEq, Repr

namespace SessionKey

/-- The order of keys: by network, then by address. -/
instance : Ord SessionKey where
  compare := compareLex (compareOn SessionKey.network) (compareOn SessionKey.address)

/-- The key of a supported network and the text of an address. An unsupported network is reported
before a malformed address. -/
def ofParts (network address : String) : Except InvalidTarget SessionKey :=
  let invalid (fault : TargetFault) := InvalidTarget.mk (network ++ ":" ++ address) fault
  if Network.isSupported network then
    match Address.parse? address with
    | some parsed => .ok ⟨network, parsed⟩
    | none => .error (invalid .notAnAddress)
  else .error (invalid (.unsupportedNetwork network))

/-- The pieces of a text between its first two colons: before the first, between them, and after
the second. -/
def pieces (text : String) : String × Option String × Option String :=
  match splitOnce ':' text with
  | (first, none) => (first, none, none)
  | (first, some later) =>
      let (second, third) := splitOnce ':' later
      (first, some second, third)

/-- The key of `network:address`, of `network:address:name`, or of a bare address, which belongs to
the default network. -/
def parse (target : String) : Except InvalidTarget SessionKey :=
  match pieces (trim target) with
  | (network, some address, _) => ofParts network address
  | (address, none, _) => ofParts Network.defaultName address

/-- The key and the contract name that a directory name encodes. -/
def ofDirectoryName? (name : String) : Option (SessionKey × Option String) :=
  match pieces name with
  | (network, some address, contractName) =>
      (Address.parse? address).map fun parsed => (⟨network, parsed⟩, contractName)
  | (_, none, _) => none

/-- The part of a URL after `https://` or else `http://`, if it starts with one of them. -/
def withoutScheme (url : String) : String :=
  match stripLeading? "https://" url with
  | some later => later
  | none => (stripLeading? "http://" url).getD url

/-- The domain and the path of a URL without its scheme. The path ends at the first `#` or `?`. -/
def domainAndPath (url : String) : String × String :=
  let (domain, path) := splitOnce '/' url
  let characters := (path.getD "").toList.takeWhile fun character =>
    character != '#' && character != '?'
  (domain, String.ofList characters)

/-- The key of a page of a block explorer: the first segment of the path that is an address, on the
first network whose host occurs in the domain. -/
def ofExplorerUrl? (url : String) : Option SessionKey :=
  let (domain, path) := domainAndPath (withoutScheme url)
  match (splitAll '/' path).findSome? Address.parse? with
  | none => none
  | some address =>
      (Network.supported.find? fun network => contains domain network.host).map fun network =>
        ⟨network.name, address⟩

/-- The checksummed address of a key. -/
def checksummedAddress (key : SessionKey) : String :=
  key.address.checksummed

/-- The text of a key. -/
def display (key : SessionKey) : String :=
  key.network ++ ":" ++ key.checksummedAddress

/-- The name of the directory of a key and a contract name, which is left out when it is empty. -/
def directoryName (key : SessionKey) (contractName : String) : String :=
  if contractName.isEmpty then key.display else key.display ++ ":" ++ contractName

end SessionKey

/-- The key of a crawl target: an explorer page, or else a key or a bare address. -/
def crawlTarget (target : String) : Except InvalidTarget SessionKey :=
  match SessionKey.ofExplorerUrl? target with
  | some key => .ok key
  | none => SessionKey.parse target

/-- The normal form of a crawl target. -/
def normalizeTarget (target : String) : Except InvalidTarget String :=
  (crawlTarget target).map SessionKey.display

/-- The query that looks up a target: the address of an explorer page, and any other text as it is,
blank characters around it aside. -/
def lookupQuery (target : String) : String :=
  match SessionKey.ofExplorerUrl? target with
  | some key => key.checksummedAddress
  | none => trim target

end ContractAtlas

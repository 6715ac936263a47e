import ContractAtlas.AddressIndex
import ContractAtlas.CommandLine.Outcome
import ContractAtlas.Configuration

/-!
# Listing and indexing

The list shows every session directory with the status of its session. The index command makes the
address index anew and writes it to its place in the data directory.
-/

namespace ContractAtlas.CommandLine

/-- What a session directory holds. -/
inductive DirectoryStatus where
  /-- No document. -/
  | incomplete
  /-- A document that is no session. -/
  | malformed
  /-- A session whose dependencies have not been resolved. -/
  | analyzed
  /-- A session whose dependencies have been resolved. -/
  | mapped
deriving DecidableEq, Repr

/-- The name of a status. -/
def DirectoryStatus.name : DirectoryStatus -> String
  | .incomplete => "incomplete"
  | .malformed => "malformed"
  | .analyzed => "analyzed"
  | .mapped => "mapped"

/-- The status of a session directory. -/
def statusOf (store : DirectoryStore) (name : String) : DirectoryStatus :=
  match store.document? name with
  | none => .incomplete
  | some path =>
      match store.load path with
      | .error _ => .malformed
      | .ok session => if session.isEnriched then .mapped else .analyzed

/-- The line of a session directory. -/
def listingLine (store : DirectoryStore) (name : String) : String :=
  name ++ "\t" ++ (statusOf store name).name

/-- Lists the session directories, with or without a header. -/
def list (store : DirectoryStore) (header : Bool) : Outcome :=
  let head := if header then ["Sessions:"] else []
  match store.directoryNames with
  | .error fault =>
      { Outcome.printed head store.files with fault := some (.store fault) }
  | .ok names => .printed (head ++ names.map (listingLine store)) store.files

/-- The store of a data directory with its settings. -/
def openStore (directory : DataDirectory) (files : FileTree) : Configuration × DirectoryStore :=
  let (configuration, files) := Configuration.loadOrCreate files directory
  (configuration, { directory, keyMatch := configuration.keyMatch, files })

/-- Makes the address index anew. -/
def index (directory : DataDirectory) (now : Timestamp) (files : FileTree) : Outcome :=
  let (_, store) := openStore directory files
  match AddressIndex.rebuild store now with
  | .error fault => .failed (.store fault) store.files
  | .ok index =>
      match index.save store.files directory.addressIndex with
      | .error fault => .failed (.store fault) store.files
      | .ok files => .printed [] files

end ContractAtlas.CommandLine

import ContractAtlas.Json.SortedFields
import ContractAtlas.Store.Basic
import ContractAtlas.Store.KeyMatch

/-!
# The store in memory

The same rules as in a data directory, over a table from directory names to sessions. A directory
without a session is incomplete. The path of a document is its directory's name and the name of the
document.
-/

namespace ContractAtlas

open Json

/-- A store in memory. -/
structure MemoryStore where
  keyMatch : KeyMatch := .substring
  /-- The sessions by directory name, in the order of the names. -/
  directories : List (String × Option Session) := []

namespace MemoryStore

/-- The path of the document of a directory. -/
def documentPath (name : String) : Path :=
  Path.join ⟨name⟩ documentName

/-- The document of a directory, if it has one. -/
def document? (directory : String × Option Session) : Option Path :=
  directory.2.map fun _ => documentPath directory.1

/-- The number of documents. -/
def size (store : MemoryStore) : Nat :=
  (store.directories.filter fun directory => directory.2.isSome).length

/-- The store with a directory registered that has no document. -/
def addIncomplete (store : MemoryStore) (name : String) : MemoryStore :=
  { store with directories := SortedFields.insert name none store.directories }

/-- The document of the first directory that matches a query and has one. -/
def lookup? (store : MemoryStore) (query : String) : Option Path :=
  (store.directories.filter fun directory => store.keyMatch.accepts query directory.1).findSome?
    document?

/-- The session of a document. -/
def load (store : MemoryStore) (path : Path) : Except StoreError Session :=
  match path.parent? with
  | none => .error (.malformedSession path .badPath)
  | some directory =>
      match SortedFields.find? directory.text store.directories with
      | some (some session) => .ok session
      | _ => .error (.malformedSession path .documentNotFound)

/-- The name of the directory in which a key is stored, whether complete or not: the first that
encodes the key, or else the one named by the key and the contract. -/
def directoryFor (store : MemoryStore) (key : SessionKey) (contractName : String) : String :=
  ((SortedFields.names store.directories).find? (KeyMatch.exact.accepts key.display)).getD
    (key.directoryName contractName)

/-- Stores a session under its key. -/
def save (store : MemoryStore) (session : Session) : Except StoreError Path × MemoryStore :=
  match session.key with
  | .error invalid => (.error (.invalidTarget invalid), store)
  | .ok key =>
      let name := store.directoryFor key session.contractName
      (.ok (documentPath name),
       { store with directories := SortedFields.insert name (some session) store.directories })

instance : SessionStore MemoryStore where
  lookup? := lookup?
  documents store := .ok (store.directories.filterMap document?)
  load := load
  save := save

end MemoryStore

end ContractAtlas

import ContractAtlas.DataDirectory
import ContractAtlas.Session.Reader
import ContractAtlas.Session.Writer
import ContractAtlas.Store.Basic
import ContractAtlas.Store.KeyMatch

/-!
# The store in a data directory

Every session has a directory below `sessions`, named by its key and its contract's name, and in it
the document. A directory without a document is incomplete: the store knows it but finds nothing in
it. A document is written beside its place and then moved there, so a reader never sees half of it.
-/

namespace ContractAtlas

/-- The store in a data directory of a file tree. -/
structure DirectoryStore where
  directory : DataDirectory
  keyMatch : KeyMatch
  files : FileTree

namespace DirectoryStore

/-- The names of all session directories in ascending order, incomplete ones included. There are
none while the directory that holds them is missing. -/
def directoryNames (store : DirectoryStore) : Except StoreError (List String) :=
  if store.files.contains store.directory.sessions then
    (store.files.directoryNames store.directory.sessions).mapError .file
  else .ok []

/-- The path of the document of a session directory. -/
def documentPath (store : DirectoryStore) (name : String) : Path :=
  (store.directory.session name).join documentName

/-- The document of a session directory, if it has one. -/
def document? (store : DirectoryStore) (name : String) : Option Path :=
  let path := store.documentPath name
  if store.files.isFile path then some path else none

/-- All session directories with their paths. -/
def directories (store : DirectoryStore) : Except StoreError (List (String × Path)) :=
  store.directoryNames.map fun names => names.map fun name => (name, store.directory.session name)

/-- The document of the first directory that matches a query and has one. -/
def lookup? (store : DirectoryStore) (query : String) : Option Path :=
  match store.directoryNames with
  | .error _ => none
  | .ok names => (names.filter (store.keyMatch.accepts query)).findSome? store.document?

/-- The documents of all directories that have one. -/
def documents (store : DirectoryStore) : Except StoreError (List Path) :=
  store.directoryNames.map fun names => names.filterMap store.document?

/-- The session of a document. -/
def load (store : DirectoryStore) (path : Path) : Except StoreError Session :=
  match store.files.readText path with
  | .error cause => .error (.malformedSession path (.unreadable cause))
  | .ok text =>
      match Session.read? text with
      | some session => .ok session
      | none => .error (.malformedSession path .notASession)

/-- The name of the directory in which a key is stored, whether complete or not: the first that
encodes the key, or else the one named by the key and the contract. -/
def directoryFor (store : DirectoryStore) (key : SessionKey) (contractName : String) :
    Except StoreError String :=
  store.directoryNames.map fun names =>
    (names.find? (KeyMatch.exact.accepts key.display)).getD (key.directoryName contractName)

/-- The store after the directory of a session has been made, with the directory's path. -/
def ensureDirectory (store : DirectoryStore) (name : String) :
    Except StoreError Path × DirectoryStore :=
  let path := store.directory.session name
  let (made, files) := store.files.ensureDirectory path
  (match made with
    | .ok () => .ok path
    | .error failed => .error (.directoryNotMade failed),
   { store with files })

/-- Writes a text beside a document and moves it to its place. The text that was written stays when
it cannot be moved. -/
def replaceDocument (files : FileTree) (directory : Path) (text : String) :
    Except StoreError Path × FileTree :=
  let document := directory.join documentName
  let staging := directory.join (documentName ++ ".tmp")
  match files.writeText staging text with
  | .error cause => (.error (.file cause), files)
  | .ok staged =>
      match staged.moveFile staging document with
      | .error cause => (.error (.file cause), staged)
      | .ok moved => (.ok document, moved)

/-- Stores a session under its key. -/
def save (store : DirectoryStore) (session : Session) : Except StoreError Path × DirectoryStore :=
  match session.key with
  | .error invalid => (.error (.invalidTarget invalid), store)
  | .ok key =>
      match store.directoryFor key session.contractName with
      | .error fault => (.error fault, store)
      | .ok name =>
          match store.ensureDirectory name with
          | (.error fault, store) => (.error fault, store)
          | (.ok path, store) =>
              let (saved, files) := replaceDocument store.files path session.write
              (saved, { store with files })

instance : SessionStore DirectoryStore where
  lookup? := lookup?
  documents := documents
  load := load
  save := save

end DirectoryStore

end ContractAtlas

import ContractAtlas.Store.Directory
import ContractAtlas.Store.Memory

/-!
# Operations on stores

What may be done to a store, one operation after the other, and what it answers. A change saves a
session or registers a directory that has no document yet; a query leaves the store as it is. The
same operations are defined for every store, so that two stores can be asked the same.
-/

namespace ContractAtlas

/-- A store in which directories without a document can be registered. -/
class RegisteringStore (σ : Type) extends SessionStore σ where
  /-- The names of all directories in ascending order, incomplete ones included. -/
  directoryNames : σ → Except StoreError (List String)
  /-- Registers a directory, and returns the store afterwards. -/
  register : σ → String → Except StoreError Unit × σ

instance : RegisteringStore MemoryStore where
  directoryNames store := .ok (Json.SortedFields.names store.directories)
  register store name := (.ok (), store.addIncomplete name)

instance : RegisteringStore DirectoryStore where
  directoryNames := DirectoryStore.directoryNames
  register store name :=
    let (made, store) := store.ensureDirectory name
    (made.map fun _ => (), store)

/-- A change of a store. -/
inductive StoreChange where
  | save (session : Session)
  | register (name : String)

/-- A question to a store. -/
inductive StoreQuery where
  | lookup (query : String)
  | documents
  | load (path : Path)
  | find (query : String)
  | sessions

/-- An operation on a store. -/
inductive StoreOperation where
  | change (change : StoreChange)
  | query (query : StoreQuery)

/-- What a store answers. -/
inductive StoreAnswer where
  | changed (path : Except StoreError (Option Path))
  | looked (path : Option Path)
  | listed (paths : Except StoreError (List Path))
  | loaded (session : Except StoreError Session)
  | found (document : Except StoreError (Path × Session))
  | shown (documents : Except StoreError (List (Path × Session)))

section

variable {σ : Type} [RegisteringStore σ]

/-- The outcome of a change, with the path of the document for a session that was saved, and the
store afterwards. -/
def StoreChange.apply (store : σ) : StoreChange → Except StoreError (Option Path) × σ
  | .save session =>
      let (saved, store) := SessionStore.save store session
      (saved.map some, store)
  | .register name =>
      let (registered, store) := RegisteringStore.register store name
      (registered.map fun _ => none, store)

/-- The answer to a question. -/
def StoreQuery.answer (store : σ) : StoreQuery → StoreAnswer
  | .lookup query => .looked (SessionStore.lookup? store query)
  | .documents => .listed (SessionStore.documents store)
  | .load path => .loaded (SessionStore.load store path)
  | .find query => .found (SessionStore.find store query)
  | .sessions => .shown (SessionStore.sessions store)

namespace StoreOperation

/-- The answer to an operation, and the store afterwards. -/
def perform (store : σ) : StoreOperation → StoreAnswer × σ
  | .change requested =>
      let (outcome, store) := requested.apply store
      (.changed outcome, store)
  | .query asked => (asked.answer store, store)

/-- The answers to a list of operations. -/
def performAll (store : σ) : List StoreOperation → List StoreAnswer
  | [] => []
  | operation :: later =>
      let (answer, store) := operation.perform store
      answer :: performAll store later

end StoreOperation

end

/-! ## Paths in answers -/

/-- The paths that an answer gives. -/
def StoreAnswer.paths : StoreAnswer → List Path
  | .changed (.ok path) => path.toList
  | .looked path => path.toList
  | .listed (.ok paths) => paths
  | .found (.ok document) => [document.1]
  | .shown (.ok documents) => documents.map Prod.fst
  | _ => []

/-- An answer with every path in it moved. -/
def StoreAnswer.move (move : Path → Path) : StoreAnswer → StoreAnswer
  | .changed path => .changed (path.map (Option.map move))
  | .looked path => .looked (path.map move)
  | .listed paths => .listed (paths.map (List.map move))
  | .loaded session => .loaded session
  | .found document => .found (document.map fun document => (move document.1, document.2))
  | .shown documents =>
      .shown (documents.map (List.map fun document => (move document.1, document.2)))

/-- An operation with every path in it moved. -/
def StoreOperation.move (move : Path → Path) : StoreOperation → StoreOperation
  | .query (.load path) => .query (.load (move path))
  | operation => operation

end ContractAtlas

import ContractAtlas.Session
import ContractAtlas.Store.Error

/-!
# Session stores

A store holds session documents and answers which one a query names. It is the only record of what
has been analyzed: a contract counts as analyzed exactly when `lookup?` finds a document for it.
Whatever an operation writes is visible to the next one, so a store is a value and saving returns
the store after it.
-/

namespace ContractAtlas

/-- The name of the document in a session directory. -/
def documentName : String := "sessionData.json"

/-- A store of session documents. -/
class SessionStore (σ : Type) where
  /-- The document of the first matching directory that has one. -/
  lookup? : σ -> String -> Option Path
  /-- The documents of all directories that have one, in the order of the directory names. -/
  documents : σ -> Except StoreError (List Path)
  /-- The session of a document. -/
  load : σ -> Path -> Except StoreError Session
  /-- Stores a session under its key in place of the document that the key had, and returns the
  document's path and the store afterwards. -/
  save : σ -> Session -> Except StoreError Path × σ

namespace SessionStore

variable {σ : Type} [SessionStore σ]

/-- The document that a query names, with its session. -/
def find (store : σ) (query : String) : Except StoreError (Path × Session) := do
  match lookup? store query with
  | none => throw (.sessionNotFound query)
  | some path => return (path, <- load store path)

/-- The sessions of the documents that can be loaded, in the order of the documents. -/
def loadable (store : σ) (paths : List Path) : List (Path × Session) :=
  paths.filterMap fun path =>
    match load store path with
    | .ok session => some (path, session)
    | .error _ => none

/-- Every session that can be loaded. -/
def sessions (store : σ) : Except StoreError (List (Path × Session)) := do
  return loadable store (<- documents store)

end SessionStore

end ContractAtlas

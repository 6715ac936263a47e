import ContractAtlas.Files.Tree
import ContractAtlas.SessionKey

/-!
# Store errors

What may go wrong between a query and a session. Two of the causes mean that nothing usable is
stored under a query, and callers treat both as "absent".
-/

namespace ContractAtlas

/-- Why a document is not a session. -/
inductive DocumentFault where
  | unreadable (cause : FileError)
  | notASession
  | documentNotFound
  | badPath
deriving DecidableEq, Repr

/-- The wording of a fault. -/
def DocumentFault.message : DocumentFault -> String
  | .unreadable cause => cause.message
  | .notASession => "the document is not a session"
  | .documentNotFound => "document not found"
  | .badPath => "bad path"

/-- Why an operation on a store fails. -/
inductive StoreError where
  | file (cause : FileError)
  | notADocument
  | sessionNotFound (query : String)
  | malformedSession (path : Path) (fault : DocumentFault)
  | directoryNotMade (path : Path)
  | homeUnknown
  | invalidTarget (invalid : InvalidTarget)
deriving DecidableEq, Repr

namespace StoreError

/-- The wording of an error. -/
def message : StoreError -> String
  | .file cause => "IO error: " ++ cause.message
  | .notADocument => "JSON error: the text is not such a document"
  | .sessionNotFound query => "No session found for " ++ query
  | .malformedSession path fault =>
      "Malformed session document at " ++ path.quoted ++ ": " ++ fault.message
  | .directoryNotMade path => "Failed to create data directory: " ++ path.quoted
  | .homeUnknown => "Failed to determine system data directory"
  | .invalidTarget invalid => "Invalid target " ++ invalid.target ++ ": " ++ invalid.fault.message

/-- Whether the error means that nothing usable is stored. -/
def isAbsent : StoreError -> Bool
  | .sessionNotFound _ => true
  | .malformedSession _ _ => true
  | _ => false

end StoreError

end ContractAtlas

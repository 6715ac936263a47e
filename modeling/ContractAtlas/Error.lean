import ContractAtlas.Resolution
import ContractAtlas.Store.Error

/-!
# Errors

What may go wrong in the operations above the stores. An error of a store passes through with its
own wording.
-/

namespace ContractAtlas

/-- Why a text is not the address of a server. -/
inductive BindFault where
  | notAnAddress
  | portOutOfRange
  | unavailable (cause : String)
deriving DecidableEq, Repr

/-- The wording of a fault. -/
def BindFault.message : BindFault -> String
  | .notAnAddress => "invalid socket address"
  | .portOutOfRange => "invalid port value"
  | .unavailable cause => cause

/-- Why an operation fails. -/
inductive AtlasError where
  | store (cause : StoreError)
  | probe (failure : ProbeFailure)
  | dispatch (target reason : String)
  | unsupportedLevel (level : Nat)
  | invalidAddress (text : String)
  | file (cause : FileError)
  | badUrl (url reason : String)
  | bind (fault : BindFault)
  /-- A file that a caller asked for cannot be written. -/
  | output (cause : FileError)
  | notADocument
deriving DecidableEq

/-- The wording of an error. -/
def AtlasError.message : AtlasError -> String
  | .store cause => cause.message
  | .probe failure => failure.message
  | .dispatch target reason => "Dispatch of " ++ target ++ " failed: " ++ reason
  | .unsupportedLevel level =>
      "Unsupported crawl level " ++ toString level ++
        ": expected no level, 0 (unbounded) or 1 (single hop)"
  | .invalidAddress text => "Invalid address: " ++ text
  | .file cause => "IO error: " ++ cause.message
  | .badUrl url reason => "IO error: " ++ url ++ ": " ++ reason
  | .bind fault => fault.message
  | .output cause => cause.message
  | .notADocument => "JSON error: the text is not such a document"

end ContractAtlas

import ContractAtlas.CommandLine.Invocation
import ContractAtlas.CommandLine.Listing
import ContractAtlas.Enrichment
import ContractAtlas.Node

/-!
# Mapping

The map command enriches the session that a target names, or every session that has not been
enriched, one after the other. A session that cannot be mapped stops only the first of the two.
-/

namespace ContractAtlas.CommandLine

/-- The lines that show what an enrichment found. -/
def summaryLines (path : Path) (summary : EnrichmentSummary) (asJson : Bool) : List String :=
  let listed (name : String) (texts : List String) : List String :=
    if texts.isEmpty then [] else ["  " ++ name ++ ": " ++ ", ".intercalate texts]
  if asJson then [summary.toJson.toCompactText]
  else
    [path.text] ++
    summary.externalAddresses.map (fun entry => "  " ++ entry.1 ++ ": " ++ entry.2) ++
    listed "interfaces" summary.externalInterfaces ++
    listed "unresolved" summary.unresolved

/-- The addresses of the sessions that have not been enriched. -/
def pendingTargets (store : DirectoryStore) : Except StoreError (List String) := do
  let sessions <- SessionStore.sessions store
  return (sessions.filter fun found => !found.2.isEnriched).map fun found =>
    found.2.contractAddress

variable {m : Type -> Type} [Monad m]

/-- Maps one target. -/
def mapOne (reader : ContractReader m) (query : String) (asJson : Bool) (store : DirectoryStore) :
    m Outcome := do
  match <- mapTarget reader query store with
  | (.error fault, store) => return .failed fault store.files
  | (.ok (path, summary), store) => return .printed (summaryLines path summary asJson) store.files

/-- Maps several targets, passing over those that fail. Gives the lines and the store
afterwards. -/
def mapEach (reader : ContractReader m) (asJson : Bool) :
    List String -> DirectoryStore -> m (List String × DirectoryStore)
  | [], store => return ([], store)
  | target :: later, store => do
      let (mapped, store) <- mapTarget reader target store
      let lines := match mapped with
        | .ok (path, summary) => summaryLines path summary asJson
        | .error _ => []
      let (laterLines, store) <- mapEach reader asJson later store
      return (lines ++ laterLines, store)

/-- Maps every session that has not been enriched. -/
def mapAll (reader : ContractReader m) (asJson : Bool) (store : DirectoryStore) : m Outcome :=
  match pendingTargets store with
  | .error fault => return .failed (.store fault) store.files
  | .ok targets => do
      let (lines, store) <- mapEach reader asJson targets store
      return .printed lines store.files

/-- Maps with a reader, as the arguments say. -/
def mapWith (reader : ContractReader m) (arguments : MapArguments) (store : DirectoryStore) :
    m Outcome :=
  match arguments.target with
  | some target => mapOne reader (lookupQuery target) arguments.asJson store
  | none => mapAll reader arguments.asJson store

/-- Maps a target, or every session that has not been enriched. -/
def map (surroundings : Surroundings m) (directory : DataDirectory) (arguments : MapArguments)
    (files : FileTree) : m Outcome :=
  let (configuration, store) := openStore directory files
  let address := arguments.nodeUrl.getD configuration.nodeUrl
  match Node.connect address configuration.nodeTimeout with
  | .error fault => return .failed fault store.files
  | .ok node => do
      let reader := Node.reader surroundings.transport node
      let (outcome, _) <- mapWith reader arguments store 0
      return outcome

end ContractAtlas.CommandLine

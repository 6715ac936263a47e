import ContractAtlas.Graph.Indexed
import ContractAtlas.Session
import ContractAtlas.Store.Basic

/-!
# Building graphs

A session adds the node of its contract, one node for every resolved dependency, and an edge to each
of them, from and to the positions that the adding of the nodes has answered. A session whose
contract has no address adds nothing.
-/

namespace ContractAtlas

open Text

/-- The external calls of a session that mention one of its resolved variables. -/
def ContractGraph.expressionsOf (session : Session) : List String :=
  session.externalCalls.filter fun call =>
    session.externalAddresses.any fun dependency => Text.contains call dependency.1

namespace IndexedGraph

/-- The graph with a dependency of the contract at a position added: a name and an address. -/
def addDependency (source : Nat) (graph : IndexedGraph) (dependency : String × String) :
    IndexedGraph :=
  let referenced := graph.addReferencedNode dependency.2 dependency.1
  (referenced.2.addEdge source referenced.1).2

/-- The graph with a session added, whose document has the given path. A session without a path is
shown with its data directory. -/
def addSession (graph : IndexedGraph) (session : Session) (path : Option Path) : IndexedGraph :=
  let address := session.contractAddress
  if (trim address).isEmpty then graph
  else
    let sessionPath := (path.map Path.text).getD session.networkInfo.dataDirectory
    let own := graph.addSessionNode address session.contractName sessionPath
      (ContractGraph.expressionsOf session)
    session.externalAddresses.foldl (addDependency own.1) own.2

/-- The graph of a list of sessions with their paths. -/
def ofSessions (sessions : List (Session × Option Path)) : IndexedGraph :=
  sessions.foldl (fun graph added => graph.addSession added.1 added.2) {}

end IndexedGraph

namespace ContractGraph

/-- The graph of a list of sessions with their paths. -/
def ofSessions (sessions : List (Session × Option Path)) : ContractGraph :=
  (IndexedGraph.ofSessions sessions).toContractGraph

/-- The graph of all sessions of a store that can be loaded. -/
def ofStore {σ : Type} [SessionStore σ] (store : σ) : Except StoreError ContractGraph := do
  let sessions <- SessionStore.sessions store
  return ofSessions (sessions.map fun found => (found.2, some found.1))

end ContractGraph

end ContractAtlas

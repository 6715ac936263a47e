import ContractAtlas.Address

/-!
# Contract graphs

A directed graph of contracts: an edge from a source to a target says that the source calls the
target. A contract is identified by its address in normal form, whatever the spelling, and a text
that is no address by itself. Nodes and edges are in the order in which they were added, each once.
A node is analyzed when a session has been added for it; what a session says about a contract
replaces what references said before.
-/

namespace ContractAtlas

open Text

/-- A contract in a graph. -/
structure ContractNode where
  address : String
  label : String
  /-- Where the session of the contract is kept, empty for a contract that is only referenced. -/
  sessionPath : String := ""
  /-- The calls of the contract that mention one of its resolved variables. -/
  expressions : List String := []
  analyzed : Bool := false
deriving DecidableEq, Repr

/-- A graph of contracts. -/
structure ContractGraph where
  nodes : List ContractNode := []
  /-- The addresses of source and target of every edge. -/
  edges : List (String × String) := []
deriving DecidableEq, Repr

namespace ContractGraph

/-- The address of the node of a contract: the normal form of an address, and any other text without
the blanks around it. -/
def nodeId (address : String) : String :=
  (Address.normalize? address).getD (trim address)

/-- The label of the node of the zero address. -/
def zeroLabel : String := "ZERO_ADDRESS"

/-- The node of an analyzed contract. The zero address keeps its label and has no session. -/
def sessionNode (address label sessionPath : String) (expressions : List String) : ContractNode :=
  let id := nodeId address
  if Address.isZeroText id then
    { address := id, label := zeroLabel, expressions, analyzed := true }
  else { address := id, label, sessionPath, expressions, analyzed := true }

/-- The node of a contract that is only referenced. -/
def referencedNode (address label : String) : ContractNode :=
  let id := nodeId address
  { address := id, label := if Address.isZeroText id then zeroLabel else label }

/-- The graph without the nodes whose address does not pass a test, and without their edges. -/
def restrict (graph : ContractGraph) (keeps : String -> Bool) : ContractGraph :=
  { nodes := graph.nodes.filter fun node => keeps node.address
    edges := graph.edges.filter fun edge => keeps edge.1 && keeps edge.2 }

/-- The graph without the zero address. -/
def withoutZero (graph : ContractGraph) : ContractGraph :=
  graph.restrict fun address => !Address.isZeroText address

end ContractGraph

end ContractAtlas

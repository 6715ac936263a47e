import ContractAtlas.Graph.Basic
import ContractAtlas.Json.SortedFields

/-!
# Graphs with an index

While a graph is put together its nodes have positions, its edges join positions, and an index says
at which position the node of an address is. To add a node answers its position, under which edges
can be added later on, and to add an edge answers whether it is new. Nodes are never taken out, so a
position that has been answered stays that of the same contract. What is shown in the end is the
graph of the addresses (`toContractGraph`).
-/

namespace ContractAtlas

open Json ContractGraph

/-- A graph of contracts with the positions of its nodes. -/
structure IndexedGraph where
  nodes : List ContractNode := []
  /-- The positions of source and target of every edge. -/
  edges : List (Nat × Nat) := []
  /-- The position of the node of every address. -/
  index : List (String × Nat) := []
deriving DecidableEq, Repr

/-- The two ways to follow an edge. -/
inductive EdgeDirection where
  | outgoing
  | incoming
deriving DecidableEq, Repr

namespace EdgeDirection

variable {α : Type}

/-- The end of an edge at which it is followed. -/
def near : EdgeDirection -> α × α -> α
  | .outgoing => Prod.fst
  | .incoming => Prod.snd

/-- The end of an edge that following it leads to. -/
def far : EdgeDirection -> α × α -> α
  | .outgoing => Prod.snd
  | .incoming => Prod.fst

end EdgeDirection

namespace IndexedGraph

/-- The position of the node of a contract. -/
def index? (graph : IndexedGraph) (address : String) : Option Nat :=
  SortedFields.find? (nodeId address) graph.index

/-- The node of a contract. -/
def node? (graph : IndexedGraph) (address : String) : Option ContractNode := do
  let place <- graph.index? address
  graph.nodes[place]?

/-- Whether a contract has a node. -/
def contains (graph : IndexedGraph) (address : String) : Bool :=
  (graph.index? address).isSome

/-- The addresses of the nodes at the ends of an edge. -/
def ends? (graph : IndexedGraph) (edge : Nat × Nat) : Option (String × String) := do
  let source <- graph.nodes[edge.1]?
  let target <- graph.nodes[edge.2]?
  return (source.address, target.address)

/-- The addresses of source and target of every edge. -/
def calls (graph : IndexedGraph) : List (String × String) :=
  graph.edges.filterMap graph.ends?

/-- The addresses of the nodes to which the edges at a contract lead, in ascending order. -/
def neighbors (graph : IndexedGraph) (address : String) (direction : EdgeDirection) :
    List String :=
  match graph.index? address with
  | none => []
  | some place =>
      let followed := graph.edges.filter fun edge => direction.near edge = place
      (followed.filterMap fun edge =>
        (graph.nodes[direction.far edge]?).map ContractNode.address).mergeSort

/-- The addresses of the nodes that have an edge from a contract, in ascending order. -/
def successors (graph : IndexedGraph) (address : String) : List String :=
  graph.neighbors address .outgoing

/-- The addresses of the nodes that have an edge to a contract, in ascending order. -/
def predecessors (graph : IndexedGraph) (address : String) : List String :=
  graph.neighbors address .incoming

/-- Puts a node behind the others and into the index, and answers its position. -/
def insert (graph : IndexedGraph) (id : String) (node : ContractNode) : Nat × IndexedGraph :=
  let place := graph.nodes.length
  (place,
   { graph with
     nodes := graph.nodes ++ [node]
     index := SortedFields.insert id place graph.index })

/-- Adds or completes the node of an analyzed contract and answers its position. -/
def addSessionNode (graph : IndexedGraph) (address label sessionPath : String)
    (expressions : List String) : Nat × IndexedGraph :=
  let node := sessionNode address label sessionPath expressions
  match graph.index? address with
  | some place => (place, { graph with nodes := graph.nodes.set place node })
  | none => graph.insert (nodeId address) node

/-- Adds the node of a referenced contract, unless there is one, and answers its position. -/
def addReferencedNode (graph : IndexedGraph) (address label : String) : Nat × IndexedGraph :=
  match graph.index? address with
  | some place => (place, graph)
  | none => graph.insert (nodeId address) (referencedNode address label)

/-- Adds an edge between the nodes at two positions, unless there is one, and answers whether it has
been added. There have to be nodes at the positions. -/
def addEdge (graph : IndexedGraph) (source target : Nat) : Bool × IndexedGraph :=
  if graph.edges.contains (source, target) then (false, graph)
  else (true, { graph with edges := graph.edges ++ [(source, target)] })

/-- The graph of the addresses. -/
def toContractGraph (graph : IndexedGraph) : ContractGraph where
  nodes := graph.nodes
  edges := graph.calls

end IndexedGraph

end ContractAtlas

import ContractAtlas.Graph.Basic
import ContractAtlas.Graph.Reachability
import ContractAtlas.Graph.Scalar
import ContractAtlas.Json.Value

/-!
# Graph statistics

Centrality is the number of edges at a node relative to the number of other nodes. The nodes above a
percentile of it are the core, the others the periphery. Components are the classes of mutually
reachable nodes; a component of several nodes has a density, the share of the possible edges that
are there. Edges from a node to itself count for centrality and not for density. Every statistic is
defined for the empty graph and for a single node.
-/

namespace ContractAtlas

/-- What an analysis is asked for. -/
structure AnalysisOptions (α : Type) where
  /-- Whether the zero address is left out, which stands for "no dependency". -/
  excludeZero : Bool
  /-- The percentile of centrality above which a node belongs to the core. -/
  corePercentile : α

/-- The part of a graph that a node belongs to. -/
inductive NodeRole where
  | core
  | periphery
deriving DecidableEq, Repr

/-- The name of a role in documents. -/
def NodeRole.name : NodeRole -> String
  | .core => "core"
  | .periphery => "periphery"

/-- The centrality of a node. -/
structure NodeCentrality (α : Type) where
  address : String
  label : String
  degree : α
  inDegree : α
  outDegree : α
  role : NodeRole

/-- A class of mutually reachable nodes. -/
structure Component (α : Type) where
  /-- The addresses of the nodes, in ascending order. -/
  members : List String
  size : Nat
  /-- The number of edges between two different members. -/
  internalEdges : Nat
  density : α

/-- The statistics of a graph. -/
structure GraphStatistics (α : Type) where
  nodeCount : Nat
  edgeCount : Nat
  centrality : List (NodeCentrality α)
  centralityThreshold : α
  core : List String
  periphery : List String
  /-- The components, largest first. -/
  components : List (Component α)
  clusterStrength : α
  isolatedNodes : Nat
  networkSize : α

section

variable {α : Type} [Scalar α]

/-- The options of an analysis that is asked for nothing in particular. -/
def AnalysisOptions.standard : AnalysisOptions α :=
  ⟨false, Scalar.ofNat 75⟩

/-- A percentile of a list of numbers, interpolated between the closest ranks, and zero for no
numbers. -/
def percentile (numbers : List α) (percent : α) : α :=
  let sorted := numbers.mergeSort Scalar.precedes
  let zero : α := Scalar.ofNat 0
  let hundred : α := Scalar.ofNat 100
  let rank := Scalar.clamp zero hundred percent / hundred * Scalar.ofNat (sorted.length - 1)
  match sorted[Scalar.floor rank]?, sorted[Scalar.ceil rank]? with
  | some below, some above =>
      below + (above - below) * (rank - Scalar.ofNat (Scalar.floor rank))
  | _, _ => zero

/-- The harmonic measure of the numbers of nodes and edges, and zero for an empty graph. -/
def networkSize (nodes edges : Nat) : α :=
  if nodes + edges = 0 then Scalar.ofNat 0
  else Scalar.ofNat 2 * Scalar.ofNat nodes * Scalar.ofNat edges / Scalar.ofNat (nodes + edges)

namespace ContractGraph

/-- The number of edges to a node. -/
def inDegree (graph : ContractGraph) (id : String) : Nat :=
  (graph.edges.filter fun edge => edge.2 = id).length

/-- The number of edges from a node. -/
def outDegree (graph : ContractGraph) (id : String) : Nat :=
  (graph.edges.filter fun edge => edge.1 = id).length

/-- The share of the other nodes that one edge stands for. -/
def degreeScale (graph : ContractGraph) : α :=
  if 1 < graph.nodes.length then Scalar.ofNat 1 / Scalar.ofNat (graph.nodes.length - 1)
  else Scalar.ofNat 0

/-- The centrality of a node. -/
def degree (graph : ContractGraph) (id : String) : α :=
  Scalar.ofNat (graph.inDegree id + graph.outDegree id) * graph.degreeScale

/-- The centrality above which a node belongs to the core. -/
def coreThreshold (graph : ContractGraph) (percent : α) : α :=
  percentile (graph.nodes.map fun node => graph.degree node.address) percent

/-- The centrality of a node with its role. -/
def centralityOf (graph : ContractGraph) (threshold : α) (node : ContractNode) :
    NodeCentrality α :=
  { address := node.address
    label := node.label
    degree := graph.degree node.address
    inDegree := Scalar.ofNat (graph.inDegree node.address) * graph.degreeScale
    outDegree := Scalar.ofNat (graph.outDegree node.address) * graph.degreeScale
    role :=
      if Scalar.less threshold (graph.degree node.address) then .core else .periphery }

/-- The edges by the positions of their nodes. -/
def edgePositions (graph : ContractGraph) : List (Nat × Nat) :=
  graph.edges.map fun edge =>
    (graph.nodes.findIdx fun node => node.address = edge.1,
     graph.nodes.findIdx fun node => node.address = edge.2)

/-- The addresses at some positions, in ascending order. -/
def membersAt (graph : ContractGraph) (positions : List Nat) : List String :=
  (positions.filterMap fun position =>
    (graph.nodes[position]?).map ContractNode.address).mergeSort

/-- A table of places in which every position of a class has a given place. -/
def setPlaces (places : List Nat) (listed : List Nat × Nat) : List Nat :=
  listed.1.foldl (fun places position => places.set position listed.2) places

/-- For every position below a count, the place of the class that it is in. -/
def classPlaces (count : Nat) (classes : List (List Nat)) : List Nat :=
  classes.zipIdx.foldl setPlaces (List.replicate count 0)

/-- The counts of classes after an edge, which counts if its positions differ and are in one
class. -/
def countInside (places counts : List Nat) (edge : Nat × Nat) : List Nat :=
  let place := places.getD edge.1 0
  if edge.1 != edge.2 && place == places.getD edge.2 0 then counts.modify place (· + 1) else counts

/-- For each of a number of classes, the number of edges between two different positions of it. The
places say which class every position is in. -/
def internalEdges (places : List Nat) (classes : Nat) (edges : List (Nat × Nat)) : List Nat :=
  edges.foldl (countInside places) (List.replicate classes 0)

/-- The component of a class of positions with a number of internal edges. -/
def component (graph : ContractGraph) (positions : List Nat) (internalEdges : Nat) :
    Component α :=
  let size := positions.length
  { members := graph.membersAt positions
    size
    internalEdges
    density :=
      if 1 < size then Scalar.ofNat internalEdges / Scalar.ofNat (size * (size - 1))
      else Scalar.ofNat 0 }

/-- Whether a component may stand before another: the larger first, and of one size the one whose
members come first. -/
def componentPrecedes (left right : Component α) : Bool :=
  right.size < left.size || (left.size = right.size &&
    !List.lex right.members left.members (fun first second => first < second))

/-- The components, largest first. -/
def components (graph : ContractGraph) : List (Component α) :=
  let classes := Reachability.classes graph.nodes.length graph.edgePositions
  let places := classPlaces graph.nodes.length classes
  let counts := internalEdges places classes.length graph.edgePositions
  (List.zipWith graph.component classes counts).mergeSort componentPrecedes

/-- Whether no edge touches a node. -/
def isIsolated (graph : ContractGraph) (node : ContractNode) : Bool :=
  graph.edges.all fun edge => edge.1 != node.address && edge.2 != node.address

/-- The statistics of a graph as it is. -/
def statistics (graph : ContractGraph) (corePercentile : α) : GraphStatistics α :=
  let threshold := graph.coreThreshold corePercentile
  let centrality := graph.nodes.map (graph.centralityOf threshold)
  let components := graph.components
  let addressesOf (role : NodeRole) : List String :=
    (centrality.filter fun node => node.role = role).map NodeCentrality.address
  { nodeCount := graph.nodes.length
    edgeCount := graph.edges.length
    centrality
    centralityThreshold := threshold
    core := addressesOf .core
    periphery := addressesOf .periphery
    components
    clusterStrength := Scalar.sum
      ((components.filter fun component => 1 < component.size).map fun component =>
        Scalar.ofNat component.size * component.density)
    isolatedNodes := (graph.nodes.filter graph.isIsolated).length
    networkSize := networkSize graph.nodes.length graph.edges.length }

/-- The statistics of a graph, with or without the zero address. -/
def analyze (graph : ContractGraph) (options : AnalysisOptions α) : GraphStatistics α :=
  (if options.excludeZero then graph.withoutZero else graph).statistics options.corePercentile

end ContractGraph

namespace GraphStatistics

/-- The components of several nodes, through which cycles run. -/
def cycles (statistics : GraphStatistics α) : List (Component α) :=
  statistics.components.filter fun component => 1 < component.size

/-- The sizes of the components. -/
def componentSizes (statistics : GraphStatistics α) : List Nat :=
  statistics.components.map Component.size

/-- The centrality of the node with exactly the given address. -/
def centralityOf? (statistics : GraphStatistics α) (address : String) :
    Option (NodeCentrality α) :=
  statistics.centrality.find? fun node => node.address = address

end GraphStatistics

end

end ContractAtlas

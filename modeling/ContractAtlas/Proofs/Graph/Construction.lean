import ContractAtlas.Graph.Statistics
import ContractAtlas.Proofs.Graph.Nodes

/-!
# Graphs that can be built

A graph comes about from the empty one by adding nodes, and edges between nodes that are there. So
no two of its nodes have one address, it has no edge twice, and its edges join its nodes. Leaving
nodes out keeps all that.
-/

namespace ContractAtlas

namespace ContractGraph

/-- The graphs that come about by the operations. An edge joins two nodes that are there. -/
inductive Built : ContractGraph → Prop where
  | empty : Built {}
  | addSessionNode {graph} (built : Built graph) (address label sessionPath : String)
      (expressions : List String) :
      Built (graph.addSessionNode address label sessionPath expressions)
  | addReferencedNode {graph} (built : Built graph) (address label : String) :
      Built (graph.addReferencedNode address label)
  | addEdge {graph} (built : Built graph) {source target : String}
      (hasSource : graph.contains source = true) (hasTarget : graph.contains target = true) :
      Built (graph.addEdge source target)

/-- What holds of every graph that can be built. -/
structure WellFormed (graph : ContractGraph) : Prop where
  nodup_addresses : graph.addresses.Nodup
  nodup_edges : graph.edges.Nodup
  source_mem : ∀ edge ∈ graph.edges, edge.1 ∈ graph.addresses
  target_mem : ∀ edge ∈ graph.edges, edge.2 ∈ graph.addresses

/-- Restricting a graph keeps the addresses that pass, in order. -/
theorem addresses_restrict (graph : ContractGraph) (keeps : String → Bool) :
    (graph.restrict keeps).addresses = graph.addresses.filter keeps := by
  simp [restrict, addresses, List.filter_map, Function.comp_def]

namespace WellFormed

variable {graph : ContractGraph}

/-- The empty graph has no edge that could lead nowhere. -/
theorem empty : WellFormed {} :=
  ⟨.nil, .nil, nofun, nofun⟩

/-- Adding a node leaves the edges alone. -/
theorem addNode (wellFormed : graph.WellFormed) {next : ContractGraph} {id : String}
    (addresses_eq : next.addresses = withAddress graph.addresses id)
    (edges_eq : next.edges = graph.edges) : next.WellFormed where
  nodup_addresses := addresses_eq ▸ nodup_withAddress wellFormed.nodup_addresses id
  nodup_edges := edges_eq ▸ wellFormed.nodup_edges
  source_mem edge member := by
    rw [addresses_eq, mem_withAddress]
    exact .inl (wellFormed.source_mem edge (edges_eq ▸ member))
  target_mem edge member := by
    rw [addresses_eq, mem_withAddress]
    exact .inl (wellFormed.target_mem edge (edges_eq ▸ member))

/-- An edge between nodes keeps a graph well-formed. -/
theorem addEdge (wellFormed : graph.WellFormed) {source target : String}
    (hasSource : graph.contains source = true) (hasTarget : graph.contains target = true) :
    (graph.addEdge source target).WellFormed := by
  rw [ContractGraph.addEdge]
  split
  · exact wellFormed
  · rename_i new
    refine ⟨wellFormed.nodup_addresses, ?_, ?_, ?_⟩
    · have fresh : (nodeId source, nodeId target) ∉ graph.edges := by simpa [hasEdge] using new
      exact List.nodup_append.mpr ⟨wellFormed.nodup_edges, List.nodup_singleton _, by grind⟩
    · intro edge member
      obtain old | rfl : edge ∈ graph.edges ∨ edge = (nodeId source, nodeId target) := by
        simpa using member
      · exact wellFormed.source_mem edge old
      · exact contains_iff.mp hasSource
    · intro edge member
      obtain old | rfl : edge ∈ graph.edges ∨ edge = (nodeId source, nodeId target) := by
        simpa using member
      · exact wellFormed.target_mem edge old
      · exact contains_iff.mp hasTarget

/-- Leaving nodes out with their edges keeps a graph well-formed. -/
theorem restrict (wellFormed : graph.WellFormed) (keeps : String → Bool) :
    (graph.restrict keeps).WellFormed := by
  have addresses_eq := graph.addresses_restrict keeps
  have kept {edge : String × String} (member : edge ∈ (graph.restrict keeps).edges) :
      edge ∈ graph.edges ∧ keeps edge.1 = true ∧ keeps edge.2 = true := by
    simpa [ContractGraph.restrict] using member
  refine ⟨addresses_eq ▸ wellFormed.nodup_addresses.filter keeps, wellFormed.nodup_edges.filter _,
    ?_, ?_⟩
  · intro edge member
    obtain ⟨old, keepsSource, _⟩ := kept member
    rw [addresses_eq]
    exact List.mem_filter.mpr ⟨wellFormed.source_mem edge old, keepsSource⟩
  · intro edge member
    obtain ⟨old, _, keepsTarget⟩ := kept member
    rw [addresses_eq]
    exact List.mem_filter.mpr ⟨wellFormed.target_mem edge old, keepsTarget⟩

end WellFormed

namespace Built

variable {graph : ContractGraph}

/-- A graph that has been built is well-formed. -/
theorem wellFormed (built : graph.Built) : graph.WellFormed := by
  induction built with
  | empty => exact .empty
  | addSessionNode _ address label sessionPath expressions wellFormed =>
      exact wellFormed.addNode (addresses_addSessionNode ..) rfl
  | addReferencedNode _ address label wellFormed =>
      refine wellFormed.addNode (addresses_addReferencedNode ..) ?_
      rw [ContractGraph.addReferencedNode]
      split <;> rfl
  | addEdge _ hasSource hasTarget wellFormed => exact wellFormed.addEdge hasSource hasTarget

/-- The edge of a dependency joins the node of the session and that of the dependency. -/
theorem addDependency (built : graph.Built) {source : String}
    (hasSource : graph.contains source = true) (dependency : String × String) :
    (graph.addDependency source dependency).Built ∧
      (graph.addDependency source dependency).contains source = true := by
  have ids : ∀ id, id ∈ (graph.addReferencedNode dependency.2 dependency.1).addresses ↔
      id ∈ graph.addresses ∨ id = nodeId dependency.2 := by
    simp [mem_withAddress]
  have stillSource := (ids (nodeId source)).mpr (.inl (contains_iff.mp hasSource))
  have target := (ids (nodeId dependency.2)).mpr (.inr rfl)
  rw [ContractGraph.addDependency, contains_iff, addresses_addEdge]
  exact ⟨(built.addReferencedNode _ _).addEdge (contains_iff.mpr stillSource)
    (contains_iff.mpr target), stillSource⟩

/-- Adding dependencies of a node builds a graph. -/
theorem foldl_addDependency (built : graph.Built) {source : String}
    (hasSource : graph.contains source = true) (dependencies : List (String × String)) :
    (dependencies.foldl (ContractGraph.addDependency source) graph).Built := by
  induction dependencies generalizing graph with
  | nil => exact built
  | cons dependency later inductionHypothesis =>
      obtain ⟨builtNext, stillSource⟩ := built.addDependency hasSource dependency
      exact inductionHypothesis builtNext stillSource

/-- Adding a session builds a graph. -/
theorem addSession (built : graph.Built) (session : Session) (path : Option Path) :
    (graph.addSession session path).Built := by
  rw [ContractGraph.addSession]
  split
  · exact built
  · refine (built.addSessionNode _ _ _ _).foldl_addDependency ?_ _
    rw [contains_iff, addresses_addSessionNode, mem_withAddress]
    exact .inr rfl

/-- The graph of some sessions is built by these operations. -/
theorem ofSessions (sessions : List (Session × Option Path)) :
    (ContractGraph.ofSessions sessions).Built := by
  rw [ofSessions_eq_foldl]
  exact List.foldlRecOn sessions _ Built.empty fun _ built added _ =>
    built.addSession added.1 added.2

/-- What an analysis works on is well-formed, with or without the zero address. -/
theorem wellFormed_analyzed (built : graph.Built) (excludeZero : Bool) :
    (if excludeZero then graph.withoutZero else graph).WellFormed := by
  split
  · exact built.wellFormed.restrict _
  · exact built.wellFormed

end Built

end ContractGraph

end ContractAtlas

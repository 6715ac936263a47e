import ContractAtlas.Proofs.Graph.Assembly
import ContractAtlas.Proofs.Json.SortedFields

/-!
# Nodes and index stay in step

The index of a graph finds an address at a position exactly if the node at that position has the
address (`InStep`). Adding nodes, under whatever spelling and how often ever, and adding edges
between nodes that are there keeps it so, and then what is done to nodes, positions and index is
what it means to add nodes and edges to the graph of the addresses. The graph of any sessions is
therefore that of their addresses (`ofSessions_eq_foldl`).
-/

namespace ContractAtlas

open Text Json ContractGraph

namespace EdgeDirection

variable {α : Type} (direction : EdgeDirection)

/-- An edge is determined by its two ends. -/
theorem ext {edge other : α × α} (sameNear : direction.near edge = direction.near other)
    (sameFar : direction.far edge = direction.far other) : edge = other := by
  cases direction with
  | outgoing => exact Prod.ext sameNear sameFar
  | incoming => exact Prod.ext sameFar sameNear

end EdgeDirection

namespace IndexedGraph

variable {graph : IndexedGraph}

/-- The addresses of the nodes, in the order of their positions. -/
def addresses (graph : IndexedGraph) : List String :=
  graph.nodes.map ContractNode.address

@[simp] theorem addresses_toContractGraph :
    graph.toContractGraph.addresses = graph.addresses := rfl

/-- There is one address for every node. -/
theorem length_addresses : graph.addresses.length = graph.nodes.length :=
  List.length_map _

/-- The address at a position is that of the node there. -/
theorem getElem?_addresses (place : Nat) :
    graph.addresses[place]? = (graph.nodes[place]?).map ContractNode.address :=
  List.getElem?_map

/-- Nodes and index agree, and the edges join nodes that are there, each two at most once. -/
structure InStep (graph : IndexedGraph) : Prop where
  /-- The index finds at a position what is there, and nothing else. -/
  find?_index_iff : ∀ id place,
    SortedFields.find? id graph.index = some place ↔ graph.addresses[place]? = some id
  nodeId_eq : ∀ id ∈ graph.addresses, nodeId id = id
  inside : ∀ edge ∈ graph.edges,
    edge.1 < graph.nodes.length ∧ edge.2 < graph.nodes.length
  nodup_edges : graph.edges.Nodup

/-! ## The addresses at the ends of edges -/

/-- An edge between two positions calls from the address at the first to that at the second. -/
theorem ends?_eq_some_iff {edge : Nat × Nat} {call : String × String} :
    graph.ends? edge = some call ↔
      graph.addresses[edge.1]? = some call.1 ∧ graph.addresses[edge.2]? = some call.2 := by
  rw [getElem?_addresses, getElem?_addresses, ends?]
  cases graph.nodes[edge.1]? <;> cases graph.nodes[edge.2]? <;> simp [Prod.ext_iff]

/-- The calls are those of the edges, told by the addresses at their ends. -/
theorem mem_calls_iff {call : String × String} : call ∈ graph.calls ↔ ∃ edge ∈ graph.edges,
    graph.addresses[edge.1]? = some call.1 ∧ graph.addresses[edge.2]? = some call.2 := by
  simp only [calls, List.mem_filterMap, ends?_eq_some_iff]

/-- Following an edge joins the addresses at the positions that it joins. -/
theorem getElem?_of_ends? {edge : Nat × Nat} {call : String × String}
    (ends : graph.ends? edge = some call) (direction : EdgeDirection) :
    graph.addresses[direction.near edge]? = some (direction.near call) ∧
      graph.addresses[direction.far edge]? = some (direction.far call) := by
  have both := ends?_eq_some_iff.mp ends
  cases direction with
  | outgoing => exact both
  | incoming => exact both.symm

/-- Nodes behind the others and other nodes at the same addresses change no call. -/
theorem calls_eq_of_isPrefix {next : IndexedGraph} (behind : graph.addresses <+: next.addresses)
    (inside : ∀ edge ∈ graph.edges, edge.1 < graph.nodes.length ∧ edge.2 < graph.nodes.length)
    (edges_eq : next.edges = graph.edges) : next.calls = graph.calls := by
  obtain ⟨later, split⟩ := behind
  have keeps {place : Nat} (within : place < graph.nodes.length) :
      next.addresses[place]? = graph.addresses[place]? := by
    rw [← split, List.getElem?_append_left (length_addresses ▸ within)]
  rw [calls, calls, edges_eq]
  refine List.filterMap_congr fun edge member => Option.ext fun call => ?_
  obtain ⟨sourceWithin, targetWithin⟩ := inside edge member
  rw [ends?_eq_some_iff, ends?_eq_some_iff, keeps sourceWithin, keeps targetWithin]

/-! ## What the index finds -/

namespace InStep

/-- In step, the index finds the position at which the address stands. -/
theorem index?_eq_some_iff (inStep : graph.InStep) {text : String} {place : Nat} :
    graph.index? text = some place ↔ graph.addresses[place]? = some (nodeId text) :=
  inStep.find?_index_iff _ _

/-- In step, the index finds nothing exactly where no node has the address. -/
theorem index?_eq_none_iff (inStep : graph.InStep) {text : String} :
    graph.index? text = none ↔ nodeId text ∉ graph.addresses := by
  rw [Option.eq_none_iff_forall_ne_some, List.mem_iff_getElem?, not_exists]
  exact forall_congr' fun place => not_congr inStep.index?_eq_some_iff

/-- In step, the index knows exactly the contracts that have a node. -/
theorem contains_iff (inStep : graph.InStep) {text : String} :
    graph.contains text = true ↔ nodeId text ∈ graph.addresses := by
  rw [contains, ← Option.not_isNone, Bool.not_eq_true', ← Bool.not_eq_true,
    Option.isNone_iff_eq_none, inStep.index?_eq_none_iff, not_not]

/-- One address is at one position. -/
theorem place_eq (inStep : graph.InStep) {place other : Nat} {id : String}
    (isAt : graph.addresses[place]? = some id) (otherAt : graph.addresses[other]? = some id) :
    place = other :=
  Option.some.inj (((inStep.find?_index_iff id place).mpr isAt).symm.trans
    ((inStep.find?_index_iff id other).mpr otherAt))

/-- In step, no two nodes have one address, as the index has one position for it. -/
theorem nodup_addresses (inStep : graph.InStep) : graph.addresses.Nodup := by
  refine List.nodup_iff_getElem?_ne_getElem?.mpr fun place other less within same => ?_
  have isAt := List.getElem?_eq_getElem within
  exact (Nat.ne_of_lt less) (inStep.place_eq (same.trans isAt) isAt)

/-- In step, a look-up by way of the index finds the node with the address. -/
theorem node?_eq_some_iff (inStep : graph.InStep) {text : String} {node : ContractNode} :
    graph.node? text = some node ↔ node ∈ graph.nodes ∧ node.address = nodeId text := by
  have unfolded : graph.node? text = some node ↔
      ∃ place, graph.index? text = some place ∧ graph.nodes[place]? = some node :=
    Option.bind_eq_some_iff
  simp only [unfolded, inStep.index?_eq_some_iff, getElem?_addresses]
  constructor
  · rintro ⟨place, located, isAt⟩
    rw [isAt] at located
    exact ⟨List.mem_of_getElem? isAt, Option.some.inj located⟩
  · rintro ⟨member, located⟩
    obtain ⟨place, isAt⟩ := List.mem_iff_getElem?.mp member
    exact ⟨place, by rw [isAt, Option.map_some, located], isAt⟩

/-! ## What every operation keeps -/

/-- An empty index is in step with no nodes. -/
theorem empty : InStep {} where
  find?_index_iff _ _ := by simp [addresses]
  nodeId_eq := List.forall_mem_nil _
  inside := List.forall_mem_nil _
  nodup_edges := .nil

/-- A node with a new address comes to the next position, in the nodes and in the index. -/
theorem insert (inStep : graph.InStep) {id : String} {node : ContractNode}
    (fresh : id ∉ graph.addresses) (located : node.address = id) (normal : nodeId id = id) :
    (graph.insert id node).2.InStep := by
  have addresses_eq : (graph.insert id node).2.addresses = graph.addresses ++ [id] := by
    simp [IndexedGraph.insert, addresses, located]
  refine ⟨fun other place => ?_, ?_, fun edge member => ?_, inStep.nodup_edges⟩
  · rw [addresses_eq, IndexedGraph.insert, SortedFields.find?_insert]
    by_cases same : id = other
    · subst same
      have last : place < graph.addresses.length → graph.addresses[place]? ≠ some id :=
        fun _ isAt => fresh (List.mem_of_getElem? isAt)
      rw [if_pos rfl, ← length_addresses, List.getElem?_append, Option.some_inj]
      split
      · rename_i within
        exact iff_of_false (Nat.ne_of_gt within) (last within)
      · rename_i beyond
        rw [List.getElem?_singleton]
        split <;> simp <;> omega
    · have notLast (later : Nat) : [id][later]? ≠ some other := fun isAt =>
        same (List.mem_singleton.mp (List.mem_of_getElem? isAt)).symm
      rw [if_neg same, inStep.find?_index_iff, List.getElem?_append]
      split
      · rfl
      · rename_i beyond
        rw [List.getElem?_eq_none (Nat.le_of_not_lt beyond)]
        exact iff_of_false nofun (notLast _)
  · intro other member
    rw [addresses_eq, List.mem_append, List.mem_singleton] at member
    obtain old | rfl := member
    · exact inStep.nodeId_eq other old
    · exact normal
  · have within := inStep.inside edge member
    simp only [IndexedGraph.insert, List.length_append, List.length_singleton]
    omega

/-- A node that is set at the position of its address leaves the addresses as they are. -/
theorem addresses_set {place : Nat} {node : ContractNode}
    (isAt : graph.addresses[place]? = some node.address) :
    (graph.nodes.set place node).map ContractNode.address = graph.addresses := by
  obtain ⟨within, located⟩ := List.getElem?_eq_some_iff.mp isAt
  rw [List.map_set, ← located]
  exact List.set_getElem_self within

/-- Other nodes at the same addresses change nothing else. -/
theorem of_addresses_eq (inStep : graph.InStep) {next : IndexedGraph}
    (addresses_eq : next.addresses = graph.addresses) (edges_eq : next.edges = graph.edges)
    (index_eq : next.index = graph.index) : next.InStep where
  find?_index_iff id place := by rw [index_eq, addresses_eq, inStep.find?_index_iff]
  nodeId_eq := addresses_eq ▸ inStep.nodeId_eq
  inside := by
    rw [edges_eq, ← length_addresses, addresses_eq, length_addresses]
    exact inStep.inside
  nodup_edges := edges_eq ▸ inStep.nodup_edges

/-- Adding the node of a session keeps the graph in step. -/
theorem addSessionNode (inStep : graph.InStep) (address label sessionPath : String)
    (expressions : List String) :
    (graph.addSessionNode address label sessionPath expressions).2.InStep := by
  rw [IndexedGraph.addSessionNode]
  cases known : graph.index? address with
  | none =>
      exact inStep.insert (inStep.index?_eq_none_iff.mp known) (address_sessionNode ..)
        (nodeId_nodeId address)
  | some place =>
      have isAt := inStep.index?_eq_some_iff.mp known
      exact inStep.of_addresses_eq (addresses_set (by rwa [address_sessionNode])) rfl rfl

/-- So does adding the node of a contract that is only referenced. -/
theorem addReferencedNode (inStep : graph.InStep) (address label : String) :
    (graph.addReferencedNode address label).2.InStep := by
  rw [IndexedGraph.addReferencedNode]
  cases known : graph.index? address with
  | none =>
      exact inStep.insert (inStep.index?_eq_none_iff.mp known) (address_referencedNode ..)
        (nodeId_nodeId address)
  | some place => exact inStep

/-- So does adding an edge between positions that have nodes. -/
theorem addEdge (inStep : graph.InStep) {source target : Nat}
    (sourceWithin : source < graph.nodes.length) (targetWithin : target < graph.nodes.length) :
    (graph.addEdge source target).2.InStep := by
  rw [IndexedGraph.addEdge]
  split
  · exact inStep
  · rename_i new
    have fresh : (source, target) ∉ graph.edges := by simpa using new
    refine ⟨inStep.find?_index_iff, inStep.nodeId_eq, fun edge member => ?_, ?_⟩
    · obtain old | rfl := (List.mem_append.mp member).imp_right List.mem_singleton.mp
      · exact inStep.inside edge old
      · exact ⟨sourceWithin, targetWithin⟩
    · exact List.nodup_append.mpr ⟨inStep.nodup_edges, List.nodup_singleton _, by grind⟩

/-! ## What the operations mean for the graph of the addresses -/

/-- A node that is inserted is seen at the end of the nodes. -/
theorem toContractGraph_insert (inStep : graph.InStep) (id : String) (node : ContractNode) :
    (graph.insert id node).2.toContractGraph =
      { graph.toContractGraph with nodes := graph.nodes ++ [node] } := by
  have behind : graph.addresses <+: (graph.insert id node).2.addresses := by
    simp [IndexedGraph.insert, addresses]
  exact congrArg (ContractGraph.mk _) (calls_eq_of_isPrefix behind inStep.inside rfl)

/-- Adding the node of a session by way of the index is adding it by its address. -/
theorem toContractGraph_addSessionNode (inStep : graph.InStep)
    (address label sessionPath : String) (expressions : List String) :
    (graph.addSessionNode address label sessionPath expressions).2.toContractGraph =
      graph.toContractGraph.addSessionNode address label sessionPath expressions := by
  have located := address_sessionNode address label sessionPath expressions
  rw [IndexedGraph.addSessionNode, ContractGraph.addSessionNode]
  cases known : graph.index? address with
  | none =>
      have fresh := inStep.index?_eq_none_iff.mp known
      rw [← located] at fresh
      have nodes : setNode _ graph.toContractGraph.nodes = _ := setNode_eq_append fresh
      rw [nodes]
      exact inStep.toContractGraph_insert _ _
  | some place =>
      have isAt := inStep.index?_eq_some_iff.mp known
      rw [← located] at isAt
      have nodes : setNode _ graph.toContractGraph.nodes = _ :=
        setNode_eq_set inStep.nodup_addresses isAt
      have sameAddresses := addresses_set isAt
      rw [nodes]
      refine congrArg (ContractGraph.mk _) (calls_eq_of_isPrefix ?_ inStep.inside rfl)
      exact sameAddresses.symm ▸ List.prefix_rfl

/-- Adding the node of a referenced contract by way of the index is adding it by its address. -/
theorem toContractGraph_addReferencedNode (inStep : graph.InStep) (address label : String) :
    (graph.addReferencedNode address label).2.toContractGraph =
      graph.toContractGraph.addReferencedNode address label := by
  rw [IndexedGraph.addReferencedNode, ContractGraph.addReferencedNode]
  cases known : graph.index? address with
  | none =>
      have fresh := inStep.index?_eq_none_iff.mp known
      rw [if_neg (mt ContractGraph.contains_iff.mp fresh)]
      exact inStep.toContractGraph_insert _ _
  | some place =>
      have present := List.mem_of_getElem? (inStep.index?_eq_some_iff.mp known)
      rw [if_pos (ContractGraph.contains_iff.mpr present)]

/-- There is an edge between two positions exactly if there is one between their addresses. -/
theorem mem_edges_iff (inStep : graph.InStep) {source target : Nat} {caller called : String}
    (callerAt : graph.addresses[source]? = some caller)
    (calledAt : graph.addresses[target]? = some called) :
    (source, target) ∈ graph.edges ↔ (caller, called) ∈ graph.calls := by
  rw [mem_calls_iff]
  constructor
  · exact fun member => ⟨_, member, callerAt, calledAt⟩
  · rintro ⟨edge, member, sourceAt, targetAt⟩
    have same : (source, target) = edge :=
      Prod.ext (inStep.place_eq callerAt sourceAt) (inStep.place_eq calledAt targetAt)
    exact same ▸ member

/-- Adding an edge between positions answers whether there was none between their addresses, and is
adding one between these. -/
theorem addEdge_eq (inStep : graph.InStep) {source target : Nat} {caller called : String}
    (callerAt : graph.addresses[source]? = some caller)
    (calledAt : graph.addresses[target]? = some called) :
    (graph.addEdge source target).1 = !graph.toContractGraph.hasEdge caller called ∧
      (graph.addEdge source target).2.toContractGraph =
        graph.toContractGraph.addEdge caller called := by
  have normalCaller := inStep.nodeId_eq caller (List.mem_of_getElem? callerAt)
  have normalCalled := inStep.nodeId_eq called (List.mem_of_getElem? calledAt)
  have known_iff : graph.toContractGraph.hasEdge caller called =
      graph.edges.contains (source, target) := by
    rw [hasEdge, normalCaller, normalCalled, Bool.eq_iff_iff, List.contains_iff_mem,
      List.contains_iff_mem]
    exact (inStep.mem_edges_iff callerAt calledAt).symm
  rw [ContractGraph.addEdge, known_iff, IndexedGraph.addEdge, normalCaller, normalCalled]
  cases known : graph.edges.contains (source, target) with
  | true => exact ⟨rfl, rfl⟩
  | false =>
      have ends : graph.ends? (source, target) = some (caller, called) :=
        ends?_eq_some_iff.mpr ⟨callerAt, calledAt⟩
      have calls_eq : (graph.edges ++ [(source, target)]).filterMap graph.ends? =
          graph.calls ++ [(caller, called)] := by
        rw [List.filterMap_append, List.filterMap_cons_some ends, List.filterMap_nil, calls]
      exact ⟨rfl, congrArg (ContractGraph.mk _) calls_eq⟩

/-! ## Positions that are answered -/

/-- The node of a session is at the position that its adding answers. -/
theorem getElem?_addSessionNode (inStep : graph.InStep) (address label sessionPath : String)
    (expressions : List String) :
    let added := graph.addSessionNode address label sessionPath expressions
    added.2.nodes[added.1]? = some (sessionNode address label sessionPath expressions) := by
  rw [IndexedGraph.addSessionNode]
  cases known : graph.index? address with
  | none => simp [IndexedGraph.insert]
  | some place =>
      have isAt := inStep.index?_eq_some_iff.mp known
      have within : place < graph.nodes.length := by
        rw [← length_addresses]
        exact (List.getElem?_eq_some_iff.mp isAt).1
      exact List.getElem?_set_self within

/-- A node of the contract is at the position that referring to it answers. -/
theorem getElem?_addReferencedNode (inStep : graph.InStep) (address label : String) :
    let added := graph.addReferencedNode address label
    added.2.addresses[added.1]? = some (nodeId address) := by
  rw [IndexedGraph.addReferencedNode]
  cases known : graph.index? address with
  | none => simp [IndexedGraph.insert, addresses]
  | some place => exact inStep.index?_eq_some_iff.mp known

end InStep

/-! ## Sessions -/

namespace InStep

/-- The node of a session enters its address. -/
theorem addresses_addSessionNode (inStep : graph.InStep) (address label sessionPath : String)
    (expressions : List String) :
    (graph.addSessionNode address label sessionPath expressions).2.addresses =
      withAddress graph.addresses (nodeId address) :=
  (congrArg ContractGraph.addresses (inStep.toContractGraph_addSessionNode ..)).trans
    (ContractGraph.addresses_addSessionNode ..)

/-- The node of a referenced contract enters its address. -/
theorem addresses_addReferencedNode (inStep : graph.InStep) (address label : String) :
    (graph.addReferencedNode address label).2.addresses =
      withAddress graph.addresses (nodeId address) :=
  (congrArg ContractGraph.addresses (inStep.toContractGraph_addReferencedNode ..)).trans
    (ContractGraph.addresses_addReferencedNode ..)

end InStep

/-- The node of a session adds no edge. -/
theorem edges_addSessionNode (graph : IndexedGraph) (address label sessionPath : String)
    (expressions : List String) :
    (graph.addSessionNode address label sessionPath expressions).2.edges = graph.edges := by
  rw [addSessionNode]
  split <;> rfl

/-- The node of a referenced contract adds no edge. -/
theorem edges_addReferencedNode (graph : IndexedGraph) (address label : String) :
    (graph.addReferencedNode address label).2.edges = graph.edges := by
  rw [addReferencedNode]
  split <;> rfl

@[simp] theorem addresses_addEdge (graph : IndexedGraph) (source target : Nat) :
    (graph.addEdge source target).2.addresses = graph.addresses := by
  rw [addEdge]
  split <;> rfl

/-- There is a node at a position that has an address. -/
theorem lt_length_of_getElem? {place : Nat} {id : String}
    (isAt : graph.addresses[place]? = some id) : place < graph.nodes.length := by
  rw [← length_addresses]
  exact (List.getElem?_eq_some_iff.mp isAt).1

/-- An address stays at its position when nodes are added behind the others. -/
theorem getElem?_of_isPrefix {next : IndexedGraph} (behind : graph.addresses <+: next.addresses)
    {place : Nat} {id : String} (isAt : graph.addresses[place]? = some id) :
    next.addresses[place]? = some id := by
  obtain ⟨later, split⟩ := behind
  rw [← split, List.getElem?_append_left (List.getElem?_eq_some_iff.mp isAt).1, isAt]

/-- A graph in step that shows a graph of addresses and has a contract at a position. -/
structure ShowsAt (graph : IndexedGraph) (shown : ContractGraph) (place : Nat) (id : String) :
    Prop where
  inStep : graph.InStep
  shows : graph.toContractGraph = shown
  isAt : graph.addresses[place]? = some id

/-- A dependency is added between the position of its source and the one that is answered for it. -/
theorem ShowsAt.addDependency {shown : ContractGraph} {place : Nat} {source : String}
    (showsAt : graph.ShowsAt shown place (nodeId source)) (dependency : String × String) :
    (graph.addDependency place dependency).ShowsAt (shown.addDependency source dependency) place
      (nodeId source) := by
  obtain ⟨inStep, rfl, isAt⟩ := showsAt
  have referenced := inStep.addReferencedNode dependency.2 dependency.1
  have targetAt := inStep.getElem?_addReferencedNode dependency.2 dependency.1
  have sourceAt : (graph.addReferencedNode dependency.2 dependency.1).2.addresses[place]? =
      some (nodeId source) := by
    refine getElem?_of_isPrefix ?_ isAt
    rw [inStep.addresses_addReferencedNode]
    exact isPrefix_withAddress ..
  refine ⟨referenced.addEdge (lt_length_of_getElem? sourceAt) (lt_length_of_getElem? targetAt), ?_,
    (addresses_addEdge ..).symm ▸ sourceAt⟩
  rw [IndexedGraph.addDependency, (referenced.addEdge_eq sourceAt targetAt).2,
    inStep.toContractGraph_addReferencedNode, ContractGraph.addDependency,
    ContractGraph.addEdge_nodeId]

/-- Adding dependencies by way of the index is adding them by their addresses, one after the other.
-/
theorem ShowsAt.foldl_addDependency {shown : ContractGraph} {place : Nat} {source : String}
    (showsAt : graph.ShowsAt shown place (nodeId source)) (dependencies : List (String × String)) :
    (dependencies.foldl (IndexedGraph.addDependency place) graph).ShowsAt
      (dependencies.foldl (ContractGraph.addDependency source) shown) place (nodeId source) := by
  induction dependencies generalizing graph shown with
  | nil => exact showsAt
  | cons dependency later inductionHypothesis =>
      exact inductionHypothesis (showsAt.addDependency dependency)

namespace InStep

/-- To add a session keeps nodes and index in step, and adds it to the graph of the addresses. -/
theorem addSession (inStep : graph.InStep) (session : Session) (path : Option Path) :
    (graph.addSession session path).InStep ∧
      (graph.addSession session path).toContractGraph =
        graph.toContractGraph.addSession session path := by
  rw [IndexedGraph.addSession, ContractGraph.addSession]
  split
  · exact ⟨inStep, rfl⟩
  · have isAt := inStep.getElem?_addSessionNode session.contractAddress session.contractName
      ((path.map Path.text).getD session.networkInfo.dataDirectory) (expressionsOf session)
    have showsAt := ShowsAt.foldl_addDependency ⟨inStep.addSessionNode .., rfl,
      by rw [getElem?_addresses, isAt, Option.map_some, address_sessionNode]⟩
      session.externalAddresses
    rw [inStep.toContractGraph_addSessionNode] at showsAt
    exact ⟨showsAt.inStep, showsAt.shows⟩

/-- Adding sessions by way of the index is adding them by their addresses, and keeps the graph in
step. -/
theorem foldl_addSession (inStep : graph.InStep) (sessions : List (Session × Option Path)) :
    let built := sessions.foldl (fun graph added => graph.addSession added.1 added.2) graph
    built.InStep ∧ built.toContractGraph =
      sessions.foldl (fun graph added => graph.addSession added.1 added.2)
        graph.toContractGraph := by
  induction sessions generalizing graph with
  | nil => exact ⟨inStep, rfl⟩
  | cons added later inductionHypothesis =>
      obtain ⟨inStepNext, shows⟩ := inStep.addSession added.1 added.2
      rw [List.foldl_cons, List.foldl_cons, ← shows]
      exact inductionHypothesis inStepNext

/-- Nodes and index of the graph of any sessions are in step. -/
theorem ofSessions (sessions : List (Session × Option Path)) :
    (IndexedGraph.ofSessions sessions).InStep :=
  (empty.foldl_addSession sessions).1

end InStep

end IndexedGraph

/-- The graph of any sessions comes about by adding one after the other to the graph of the
addresses. -/
theorem ContractGraph.ofSessions_eq_foldl (sessions : List (Session × Option Path)) :
    ofSessions sessions =
      sessions.foldl (fun graph added => graph.addSession added.1 added.2) {} :=
  (IndexedGraph.InStep.empty.foldl_addSession sessions).2

end ContractAtlas

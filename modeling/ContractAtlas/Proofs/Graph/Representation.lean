import ContractAtlas.Proofs.Graph.Components
import ContractAtlas.Proofs.Graph.Document

/-!
# What a graph represents

Nodes are added under any spelling of an address and edges between the positions that earlier
operations answered. Whatever is done in this way, nodes and index stay in step: each address is the
normal form of itself and has one node, the index finds it from every spelling, no edge is there
twice, and the document of the graph says all of it (`Represents`). Operations between answered
positions never fail, and positions that have been answered stay those of the same contract
(`represents_after_run`). To add sessions is to do such operations (`exists_run_ofSessions`).
-/

namespace ContractAtlas

open Text

namespace ContractGraph

variable {graph : ContractGraph}

/-! ## Spellings -/

/-- Whether two texts name one contract: they denote one address, or else they are the same text but
for the blanks around it. -/
def NamesSame (text other : String) : Prop :=
  Address.parse? text = Address.parse? other ∧
    (Address.parse? text = none → trim text = trim other)

/-- Two texts have the node of one contract exactly if they name one contract. -/
theorem nodeId_eq_iff {text other : String} :
    nodeId text = nodeId other ↔ NamesSame text other := by
  constructor
  · intro same
    have sameRead : Address.parse? text = Address.parse? other := by
      rw [← parse?_nodeId text, same, parse?_nodeId]
    refine ⟨sameRead, fun unread => ?_⟩
    rw [← nodeId_of_not_parsed unread, same, nodeId_of_not_parsed (sameRead ▸ unread)]
  · rintro ⟨sameRead, sameText⟩
    cases read : Address.parse? text with
    | none =>
        rw [nodeId_of_not_parsed read, nodeId_of_not_parsed (sameRead ▸ read), sameText read]
    | some address => rw [nodeId_of_parse read, nodeId_of_parse (sameRead ▸ read)]

end ContractGraph

open ContractGraph

namespace IndexedGraph

variable {graph : IndexedGraph}

/-! ## Calls -/

namespace InStep

/-- Every edge has addresses at its ends. -/
theorem exists_ends? (inStep : graph.InStep) {edge : Nat × Nat} (member : edge ∈ graph.edges) :
    ∃ call, graph.ends? edge = some call := by
  obtain ⟨sourceWithin, targetWithin⟩ := inStep.inside edge member
  rw [← length_addresses] at sourceWithin targetWithin
  exact ⟨(graph.addresses[edge.1], graph.addresses[edge.2]), ends?_eq_some_iff.mpr
    ⟨List.getElem?_eq_getElem sourceWithin, List.getElem?_eq_getElem targetWithin⟩⟩

/-- Edges between the same addresses are between the same positions. -/
theorem edge_eq (inStep : graph.InStep) {edge other : Nat × Nat} {call : String × String}
    (ends : graph.ends? edge = some call) (otherEnds : graph.ends? other = some call) :
    edge = other := by
  obtain ⟨sourceAt, targetAt⟩ := ends?_eq_some_iff.mp ends
  obtain ⟨otherSourceAt, otherTargetAt⟩ := ends?_eq_some_iff.mp otherEnds
  exact Prod.ext (inStep.place_eq sourceAt otherSourceAt) (inStep.place_eq targetAt otherTargetAt)

/-- No call is there twice, as the edges are not and different positions have different addresses.
-/
theorem nodup_calls (inStep : graph.InStep) : graph.calls.Nodup :=
  inStep.nodup_edges.filterMap fun _ _ _ ends otherEnds => inStep.edge_eq ends otherEnds

/-- No edge is left out of the calls. -/
theorem length_calls (inStep : graph.InStep) : graph.calls.length = graph.edges.length := by
  rw [calls, List.length_filterMap_eq_countP, List.countP_eq_length]
  intro edge member
  obtain ⟨call, ends⟩ := inStep.exists_ends? member
  rw [ends, Option.isSome_some]

/-- The ends of a call are addresses of nodes. -/
theorem ends_mem {call : String × String} (member : call ∈ graph.calls)
    (direction : EdgeDirection) :
    direction.near call ∈ graph.addresses ∧ direction.far call ∈ graph.addresses := by
  obtain ⟨edge, _, ends⟩ := List.mem_filterMap.mp member
  obtain ⟨nearAt, farAt⟩ := getElem?_of_ends? ends direction
  exact ⟨List.mem_of_getElem? nearAt, List.mem_of_getElem? farAt⟩

/-! ## Neighbors -/

/-- The neighbors of a contract are the other ends of the calls that it has part in. -/
theorem neighbors_eq (inStep : graph.InStep) (text : String) (direction : EdgeDirection) :
    graph.neighbors text direction =
      ((graph.calls.filter fun call => direction.near call = nodeId text).map
        direction.far).mergeSort := by
  rw [neighbors]
  cases known : graph.index? text with
  | none =>
      have absent := inStep.index?_eq_none_iff.mp known
      have without : graph.calls.filter (fun call => direction.near call = nodeId text) = [] := by
        refine List.filter_eq_nil_iff.mpr fun call member => ?_
        have present := (ends_mem member direction).1
        simpa using fun same : direction.near call = nodeId text => absent (same ▸ present)
      rw [without, List.map_nil, List.mergeSort_nil]
  | some place =>
      have isAt := inStep.index?_eq_some_iff.mp known
      refine congrArg (List.mergeSort · _) ?_
      rw [calls, List.filterMap_filter, List.filter_filterMap, List.map_filterMap]
      refine List.filterMap_congr fun edge member => ?_
      obtain ⟨call, ends⟩ := inStep.exists_ends? member
      obtain ⟨nearAt, farAt⟩ := getElem?_of_ends? ends direction
      have here_iff : direction.near edge = place ↔ direction.near call = nodeId text := by
        constructor
        · rintro rfl
          exact Option.some.inj (nearAt.symm.trans isAt)
        · intro same
          exact inStep.place_eq (same ▸ nearAt) isAt
      rw [ends, ← getElem?_addresses, farAt, Option.filter_some]
      simp only [here_iff, decide_eq_true_eq]
      split <;> rfl

/-- The neighbors of a contract are the far ends of the calls that have it at the near end. -/
theorem mem_neighbors (inStep : graph.InStep) {text id : String} {direction : EdgeDirection} :
    id ∈ graph.neighbors text direction ↔
      ∃ call ∈ graph.calls, direction.near call = nodeId text ∧ direction.far call = id := by
  simp [inStep.neighbors_eq, and_assoc]

/-- The neighbors of a contract are listed in ascending order, once each. -/
theorem pairwise_neighbors (inStep : graph.InStep) (text : String) (direction : EdgeDirection) :
    (graph.neighbors text direction).Pairwise (· < ·) := by
  rw [inStep.neighbors_eq]
  generalize listed_eq : (graph.calls.filter fun call => direction.near call = nodeId text).map
    direction.far = listed
  have unrepeated : listed.Nodup := by
    rw [← listed_eq]
    refine (inStep.nodup_calls.filter _).map_on fun call ofCall other ofOther same => ?_
    have atCall : direction.near call = nodeId text := by simpa using (List.mem_filter.mp ofCall).2
    have atOther : direction.near other = nodeId text := by
      simpa using (List.mem_filter.mp ofOther).2
    exact direction.ext (atCall.trans atOther.symm) same
  have sorted := List.pairwise_mergeSort' (· ≤ ·) listed
  have different := List.nodup_iff_pairwise_ne.mp
    ((List.mergeSort_perm listed (· ≤ ·)).nodup_iff.mpr unrepeated)
  exact (sorted.and different).imp fun both => lt_of_le_of_ne both.1 both.2

/-- The successors of a contract are those that it calls. -/
theorem mem_successors (inStep : graph.InStep) {source id : String} :
    id ∈ graph.successors source ↔ (nodeId source, id) ∈ graph.calls := by
  simp [successors, inStep.mem_neighbors, EdgeDirection.near, EdgeDirection.far]

/-- The predecessors of a contract are those that call it. -/
theorem mem_predecessors (inStep : graph.InStep) {target id : String} :
    id ∈ graph.predecessors target ↔ (id, nodeId target) ∈ graph.calls := by
  simp [predecessors, inStep.mem_neighbors, EdgeDirection.near, EdgeDirection.far]

end InStep

/-! ## Runs of operations -/

/-- An operation that builds a graph. An edge is added between the nodes at two positions. -/
inductive Operation where
  | sessionNode (address label sessionPath : String) (expressions : List String)
  | referencedNode (address label : String)
  | edge (source target : Nat)

/-- What an operation answers: the position of a node, or whether an edge has been added. -/
inductive Answer where
  | position (place : Nat)
  | added (isNew : Bool)
deriving DecidableEq

/-- What an operation answers, with the graph after it. There is none for an edge at a position
without a node. -/
def perform? (graph : IndexedGraph) : Operation → Option (Answer × IndexedGraph)
  | .sessionNode address label sessionPath expressions =>
      some ((graph.addSessionNode address label sessionPath expressions).map .position id)
  | .referencedNode address label =>
      some ((graph.addReferencedNode address label).map .position id)
  | .edge source target =>
      if source < graph.nodes.length ∧ target < graph.nodes.length then
        some ((graph.addEdge source target).map .added id)
      else none

/-- Whether the positions that an operation names are among the answers of earlier ones. -/
def Operation.Returned (history : List (Operation × Answer)) : Operation → Prop
  | .edge source target =>
      .position source ∈ history.map Prod.snd ∧ .position target ∈ history.map Prod.snd
  | _ => True

instance (history : List (Operation × Answer)) :
    (operation : Operation) → Decidable (operation.Returned history)
  | .edge source target => inferInstanceAs (Decidable
      (.position source ∈ history.map Prod.snd ∧ .position target ∈ history.map Prod.snd))
  | .sessionNode .. => inferInstanceAs (Decidable True)
  | .referencedNode .. => inferInstanceAs (Decidable True)

/-- The runs of operations from the empty graph, with their answers. -/
inductive Run : List (Operation × Answer) → IndexedGraph → Prop where
  | start : Run [] {}
  | perform {history : List (Operation × Answer)} {graph next : IndexedGraph}
      {operation : Operation} {answer : Answer} (run : Run history graph)
      (returned : operation.Returned history)
      (performed : graph.perform? operation = some (answer, next)) :
      Run (history ++ [(operation, answer)]) next

/-- What an operation does to a graph and answers. -/
inductive Operation.Does (graph next : IndexedGraph) : Operation → Answer → Prop where
  | sessionNode {address label sessionPath : String} {expressions : List String} {place : Nat}
      (isAt : next.nodes[place]? =
        some (ContractGraph.sessionNode address label sessionPath expressions))
      (addresses_eq : next.addresses = withAddress graph.addresses (nodeId address))
      (edges_eq : next.edges = graph.edges) :
      Does graph next (.sessionNode address label sessionPath expressions) (.position place)
  | referencedNode {address label : String} {place : Nat}
      (isAt : next.addresses[place]? = some (nodeId address))
      (addresses_eq : next.addresses = withAddress graph.addresses (nodeId address))
      (edges_eq : next.edges = graph.edges) :
      Does graph next (.referencedNode address label) (.position place)
  | newEdge {source target : Nat} {caller called : String}
      (callerAt : graph.addresses[source]? = some caller)
      (calledAt : graph.addresses[target]? = some called) (isNew : (caller, called) ∉ graph.calls)
      (nodes_eq : next.nodes = graph.nodes) (index_eq : next.index = graph.index)
      (edges_eq : next.edges = graph.edges ++ [(source, target)])
      (calls_eq : next.calls = graph.calls ++ [(caller, called)]) :
      Does graph next (.edge source target) (.added true)
  | knownEdge {source target : Nat} {caller called : String}
      (callerAt : graph.addresses[source]? = some caller)
      (calledAt : graph.addresses[target]? = some called) (known : (caller, called) ∈ graph.calls)
      (unchanged : next = graph) : Does graph next (.edge source target) (.added false)

/-- Whether an answer that was given before is right about a graph: the position of a node is still
that of the contract. -/
inductive Operation.Stands (graph : IndexedGraph) : Operation → Answer → Prop where
  | sessionNode {address label sessionPath : String} {expressions : List String} {place : Nat}
      (isAt : graph.addresses[place]? = some (nodeId address)) :
      Stands graph (.sessionNode address label sessionPath expressions) (.position place)
  | referencedNode {address label : String} {place : Nat}
      (isAt : graph.addresses[place]? = some (nodeId address)) :
      Stands graph (.referencedNode address label) (.position place)
  | edge {source target : Nat} {isNew : Bool} :
      Stands graph (.edge source target) (.added isNew)

/-- The addresses of the nodes before an operation are the first ones after it. -/
theorem Operation.Does.isPrefix {next : IndexedGraph} {operation : Operation} {answer : Answer}
    (does : operation.Does graph next answer) : graph.addresses <+: next.addresses := by
  cases does with
  | sessionNode _ addresses_eq _ => exact addresses_eq ▸ isPrefix_withAddress ..
  | referencedNode _ addresses_eq _ => exact addresses_eq ▸ isPrefix_withAddress ..
  | newEdge _ _ _ nodes_eq => rw [addresses, addresses, nodes_eq]
  | knownEdge _ _ _ unchanged => rw [unchanged]

/-- Whether there are nodes at the positions that an operation names. -/
def Operation.Inside (graph : IndexedGraph) : Operation → Prop
  | .edge source target => source < graph.nodes.length ∧ target < graph.nodes.length
  | _ => True

/-- Whether an operation gives an answer and a graph, does what it should, keeps nodes and index in
step, and can be followed by others. -/
structure Operation.Succeeds (graph : IndexedGraph) (operation : Operation) (answer : Answer)
    (next : IndexedGraph) : Prop where
  performs : graph.perform? operation = some (answer, next)
  does : operation.Does graph next answer
  inStep : next.InStep
  /-- The operation is one on the graph of the addresses too. -/
  built : graph.toContractGraph.Built → next.toContractGraph.Built

namespace InStep

/-- The node of a session is described in full, at the position that is answered. -/
theorem succeeds_sessionNode (inStep : graph.InStep) (address label sessionPath : String)
    (expressions : List String) :
    let added := graph.addSessionNode address label sessionPath expressions
    (Operation.sessionNode address label sessionPath expressions).Succeeds graph
      (.position added.1) added.2 where
  performs := rfl
  does := .sessionNode (inStep.getElem?_addSessionNode ..) (inStep.addresses_addSessionNode ..)
    (edges_addSessionNode ..)
  inStep := inStep.addSessionNode ..
  built built := by
    rw [inStep.toContractGraph_addSessionNode]
    exact built.addSessionNode ..

/-- The node of a referenced contract is new, or left as it was, at the position that is answered.
-/
theorem succeeds_referencedNode (inStep : graph.InStep) (address label : String) :
    let added := graph.addReferencedNode address label
    (Operation.referencedNode address label).Succeeds graph (.position added.1) added.2 where
  performs := rfl
  does := .referencedNode (inStep.getElem?_addReferencedNode ..)
    (inStep.addresses_addReferencedNode ..) (edges_addReferencedNode ..)
  inStep := inStep.addReferencedNode ..
  built built := by
    rw [inStep.toContractGraph_addReferencedNode]
    exact built.addReferencedNode ..

/-- An edge between positions with nodes is added if it was not there. -/
theorem does_addEdge (inStep : graph.InStep) {source target : Nat} {caller called : String}
    (callerAt : graph.addresses[source]? = some caller)
    (calledAt : graph.addresses[target]? = some called) :
    (Operation.edge source target).Does graph (graph.addEdge source target).2
      (.added (graph.addEdge source target).1) := by
  have known_iff := inStep.mem_edges_iff callerAt calledAt
  have shows := (inStep.addEdge_eq callerAt calledAt).2
  rw [IndexedGraph.addEdge] at shows ⊢
  cases known : graph.edges.contains (source, target) with
  | true =>
      have there := known_iff.mp (List.contains_iff_mem.mp known)
      exact .knownEdge callerAt calledAt there rfl
  | false =>
      have missing : (source, target) ∉ graph.edges := by simpa using known
      have fresh := mt known_iff.mpr missing
      refine .newEdge callerAt calledAt fresh rfl rfl rfl ?_
      rw [known] at shows
      have normalCaller := inStep.nodeId_eq caller (List.mem_of_getElem? callerAt)
      have normalCalled := inStep.nodeId_eq called (List.mem_of_getElem? calledAt)
      have notThere : ¬ graph.toContractGraph.hasEdge caller called = true := by
        rw [hasEdge, normalCaller, normalCalled, List.contains_iff_mem]
        exact fresh
      rw [ContractGraph.addEdge, if_neg notThere, normalCaller, normalCalled] at shows
      exact congrArg ContractGraph.edges shows

/-- The answer for an edge says whether it is new, and nothing else changes. -/
theorem succeeds_edge (inStep : graph.InStep) {source target : Nat}
    (sourceWithin : source < graph.nodes.length) (targetWithin : target < graph.nodes.length) :
    (Operation.edge source target).Succeeds graph (.added (graph.addEdge source target).1)
      (graph.addEdge source target).2 := by
  have callerAt := List.getElem?_eq_getElem (length_addresses ▸ sourceWithin)
  have calledAt := List.getElem?_eq_getElem (length_addresses ▸ targetWithin)
  have contained {place : Nat} {id : String} (isAt : graph.addresses[place]? = some id) :
      graph.toContractGraph.contains id = true := by
    have member := List.mem_of_getElem? isAt
    rwa [ContractGraph.contains_iff, inStep.nodeId_eq id member]
  refine ⟨if_pos ⟨sourceWithin, targetWithin⟩, inStep.does_addEdge callerAt calledAt,
    inStep.addEdge sourceWithin targetWithin, fun built => ?_⟩
  rw [(inStep.addEdge_eq callerAt calledAt).2]
  exact built.addEdge (contained callerAt) (contained calledAt)

/-- An operation on nodes that are there does what it should. -/
theorem succeeds (inStep : graph.InStep) {operation : Operation}
    (inside : operation.Inside graph) : ∃ answer next, operation.Succeeds graph answer next := by
  cases operation with
  | sessionNode address label sessionPath expressions =>
      exact ⟨_, _, inStep.succeeds_sessionNode address label sessionPath expressions⟩
  | referencedNode address label => exact ⟨_, _, inStep.succeeds_referencedNode address label⟩
  | edge source target => exact ⟨_, _, inStep.succeeds_edge inside.1 inside.2⟩

end InStep

/-! ## What every run keeps -/

/-- What an operation has answered is right about the graph after it. -/
theorem Operation.Does.stands {next : IndexedGraph} {operation : Operation} {answer : Answer}
    (does : operation.Does graph next answer) : operation.Stands next answer := by
  cases does with
  | sessionNode isAt _ _ =>
      refine .sessionNode ?_
      rw [getElem?_addresses, isAt, Option.map_some, address_sessionNode]
  | referencedNode isAt _ _ => exact .referencedNode isAt
  | newEdge => exact .edge
  | knownEdge => exact .edge

/-- Answers stay right where nodes are added behind the others. -/
theorem Operation.Stands.of_isPrefix {next : IndexedGraph}
    (behind : graph.addresses <+: next.addresses) {operation : Operation} {answer : Answer}
    (stands : operation.Stands graph answer) : operation.Stands next answer := by
  cases stands with
  | sessionNode isAt => exact .sessionNode (getElem?_of_isPrefix behind isAt)
  | referencedNode isAt => exact .referencedNode (getElem?_of_isPrefix behind isAt)
  | edge => exact .edge

/-- There are nodes at the positions that have been answered, as long as the answers are right. -/
theorem Operation.Returned.inside {history : List (Operation × Answer)} {operation : Operation}
    (returned : operation.Returned history)
    (standing : ∀ entry ∈ history, entry.1.Stands graph entry.2) : operation.Inside graph := by
  have taken {place : Nat} (isReturned : .position place ∈ history.map Prod.snd) :
      place < graph.nodes.length := by
    obtain ⟨⟨earlier, _⟩, member, rfl⟩ := List.mem_map.mp isReturned
    cases standing _ member with
    | sessionNode isAt => exact lt_length_of_getElem? isAt
    | referencedNode isAt => exact lt_length_of_getElem? isAt
  cases operation with
  | sessionNode => trivial
  | referencedNode => trivial
  | edge source target => exact ⟨taken returned.1, taken returned.2⟩

/-- What holds after every run: nodes and index are in step, the graph of the addresses has been
built by the same operations, and all answers are still right. -/
structure Sound (history : List (Operation × Answer)) (graph : IndexedGraph) : Prop where
  inStep : graph.InStep
  built : graph.toContractGraph.Built
  standing : ∀ entry ∈ history, entry.1.Stands graph entry.2

namespace Run

variable {history : List (Operation × Answer)}

/-- After any run the graph says of every operation what it answered. -/
theorem sound (run : Run history graph) : Sound history graph := by
  induction run with
  | start => exact ⟨.empty, .empty, List.forall_mem_nil _⟩
  | perform run returned performed before =>
      obtain ⟨answer, next, performs, does, inStep, built⟩ :=
        before.inStep.succeeds (returned.inside before.standing)
      obtain ⟨rfl, rfl⟩ := Prod.mk.inj (Option.some.inj (performed.symm.trans performs))
      refine ⟨inStep, built before.built, fun entry member => ?_⟩
      obtain earlier | last := List.mem_append.mp member
      · exact (before.standing entry earlier).of_isPrefix does.isPrefix
      · obtain rfl := List.mem_singleton.mp last
        exact does.stands

end Run

/-- What it means that a graph represents contracts and their calls, each once. -/
structure Represents (graph : IndexedGraph) : Prop where
  inStep : graph.InStep
  nodup_addresses : graph.addresses.Nodup
  nodeId_address : ∀ node ∈ graph.nodes, nodeId node.address = node.address
  index?_eq_some_iff : ∀ text place, graph.index? text = some place ↔
    ∃ node, graph.nodes[place]? = some node ∧ node.address = nodeId text
  node?_eq_some_iff : ∀ text node, graph.node? text = some node ↔
    node ∈ graph.nodes ∧ node.address = nodeId text
  contains_iff : ∀ text, graph.contains text = true ↔
    ∃ node ∈ graph.nodes, node.address = nodeId text
  /-- It does not matter how a contract is spelled. -/
  same_node : ∀ text other, NamesSame text other → graph.index? text = graph.index? other ∧
    graph.node? text = graph.node? other ∧ graph.contains text = graph.contains other
  nodup_calls : graph.calls.Nodup
  length_calls : graph.calls.length = graph.edges.length
  ends_mem : ∀ call ∈ graph.calls, call.1 ∈ graph.addresses ∧ call.2 ∈ graph.addresses
  successors_sorted : ∀ text, (graph.successors text).Pairwise (· < ·)
  predecessors_sorted : ∀ text, (graph.predecessors text).Pairwise (· < ·)
  mem_successors_iff : ∀ source id,
    id ∈ graph.successors source ↔ (nodeId source, id) ∈ graph.calls
  mem_predecessors_iff : ∀ target id,
    id ∈ graph.predecessors target ↔ (id, nodeId target) ∈ graph.calls
  /-- The text of the document lists every node once and links listed nodes only, and the graph of
  the addresses can be had back from it. -/
  document : ∃ document,
    NodeLink.read? graph.toContractGraph.toJson.toPrettyText = some document ∧
    document.ids.Nodup ∧ document.ids = document.nodes.map ContractNode.address ∧
    (∀ link ∈ document.links, link.1 ∈ document.ids ∧ link.2 ∈ document.ids) ∧
    document.graph = graph.toContractGraph

/-- A graph in step is one that its queries tell the truth about. -/
theorem InStep.represents (inStep : graph.InStep) : graph.Represents := by
  have ends (call : String × String) (member : call ∈ graph.calls) :
      call.1 ∈ graph.addresses ∧ call.2 ∈ graph.addresses := ends_mem member .outgoing
  constructor
  case inStep => exact inStep
  case nodup_addresses => exact inStep.nodup_addresses
  case nodeId_address =>
    exact fun node member => inStep.nodeId_eq _ (List.mem_map_of_mem member)
  case index?_eq_some_iff =>
    intro text place
    rw [inStep.index?_eq_some_iff, getElem?_addresses, Option.map_eq_some_iff]
  case node?_eq_some_iff => exact fun _ _ => inStep.node?_eq_some_iff
  case contains_iff =>
    intro text
    rw [inStep.contains_iff, addresses, List.mem_map]
  case same_node =>
    intro text other names
    have same := nodeId_eq_iff.mpr names
    refine ⟨?_, ?_, ?_⟩ <;> simp only [index?, node?, contains, same]
  case nodup_calls => exact inStep.nodup_calls
  case length_calls => exact inStep.length_calls
  case ends_mem => exact ends
  case successors_sorted => exact fun text => inStep.pairwise_neighbors text .outgoing
  case predecessors_sorted => exact fun text => inStep.pairwise_neighbors text .incoming
  case mem_successors_iff => exact fun _ _ => inStep.mem_successors
  case mem_predecessors_iff => exact fun _ _ => inStep.mem_predecessors
  case document =>
    exact ⟨.ofGraph graph.toContractGraph, NodeLink.read?_toPrettyText _, inStep.nodup_addresses,
      rfl, ends, rfl⟩

/-- After any run of operations that name positions answered by earlier ones only, the graph
represents its contracts and their calls, its nodes and its index in step (`Represents`), every
position that has been answered is still that of the contract, and every next operation of this kind
succeeds and does what it should: it answers the position of the node, or whether the edge has been
added (`Operation.Does`). -/
theorem represents_after_run {history : List (Operation × Answer)} (run : Run history graph) :
    graph.Represents ∧ (∀ entry ∈ history, entry.1.Stands graph entry.2) ∧
      ∀ operation : Operation, operation.Returned history → ∃ answer next,
        graph.perform? operation = some (answer, next) ∧ operation.Does graph next answer := by
  obtain ⟨inStep, _, standing⟩ := run.sound
  refine ⟨inStep.represents, standing, fun operation returned => ?_⟩
  obtain ⟨answer, next, succeeds⟩ := inStep.succeeds (returned.inside standing)
  exact ⟨answer, next, succeeds.performs, succeeds.does⟩

/-- A contract that is referred to and then added under another spelling calls another one, itself,
and the other one again. -/
def callingHistory : List (Operation × Answer) :=
  [(.referencedNode " vault" "owner", .position 0),
   (.sessionNode "vault\n" "Vault" "vault.json" ["vault.open()"], .position 0),
   (.referencedNode "token" "asset", .position 1), (.edge 0 1, .added true),
   (.edge 0 0, .added true), (.edge 0 1, .added false)]

/-- The two contracts with the two edges. -/
def callingGraph : IndexedGraph where
  nodes := [⟨"vault", "Vault", "vault.json", ["vault.open()"], true⟩,
    ⟨"token", "asset", "", [], false⟩]
  edges := [(0, 1), (0, 0)]
  index := [("token", 1), ("vault", 0)]

/-- The history of the two callers is a run. -/
theorem run_callingHistory : Run callingHistory callingGraph := by
  let owner : ContractNode := ⟨"vault", "owner", "", [], false⟩
  let vault : ContractNode := ⟨"vault", "Vault", "vault.json", ["vault.open()"], true⟩
  let token : ContractNode := ⟨"token", "asset", "", [], false⟩
  let index : List (String × Nat) := [("token", 1), ("vault", 0)]
  have referred : Run (callingHistory.take 1) ⟨[owner], [], [("vault", 0)]⟩ :=
    .perform .start trivial (by decide)
  have added : Run (callingHistory.take 2) ⟨[vault], [], [("vault", 0)]⟩ :=
    .perform referred trivial (by decide)
  have listed : Run (callingHistory.take 3) ⟨[vault, token], [], index⟩ :=
    .perform added trivial (by decide)
  have called : Run (callingHistory.take 4) ⟨[vault, token], [(0, 1)], index⟩ :=
    .perform listed (by decide) (by decide)
  have calledItself : Run (callingHistory.take 5) callingGraph :=
    .perform called (by decide) (by decide)
  exact .perform calledItself (by decide) (by decide)

/-- The next edge there is that from the second contract to the first, which is new. -/
theorem represents_after_callingHistory :
    Run callingHistory callingGraph ∧ callingGraph.Represents ∧
      (∀ entry ∈ callingHistory, entry.1.Stands callingGraph entry.2) ∧
      ∃ answer next, callingGraph.perform? (.edge 1 0) = some (answer, next) ∧
        (Operation.edge 1 0).Does callingGraph next answer := by
  obtain ⟨represents, standing, progress⟩ := represents_after_run run_callingHistory
  exact ⟨run_callingHistory, represents, standing, progress (.edge 1 0) (by decide)⟩

/-! ## Runs that add sessions -/

namespace Run

variable {history : List (Operation × Answer)}

/-- Whether a run with some history goes on, by further operations, to a graph. -/
def Extends (history : List (Operation × Answer)) (graph : IndexedGraph) : Prop :=
  ∃ later, Run (history ++ later) graph

/-- A dependency is added by two operations, between positions that have been answered. -/
theorem addDependency (run : Run history graph) {source : Nat}
    (returned : .position source ∈ history.map Prod.snd) (dependency : String × String) :
    Extends history (graph.addDependency source dependency) := by
  let referenced := graph.addReferencedNode dependency.2 dependency.1
  let operation : Operation := .referencedNode dependency.2 dependency.1
  have referring : Run (history ++ [(operation, .position referenced.1)]) referenced.2 :=
    run.perform trivial rfl
  have answered : (Operation.edge source referenced.1).Returned
      (history ++ [(operation, .position referenced.1)]) := by
    rw [Operation.Returned, List.map_append, List.mem_append, List.mem_append]
    exact ⟨.inl returned, .inr (List.mem_singleton_self _)⟩
  obtain ⟨sourceWithin, targetWithin⟩ := answered.inside referring.sound.standing
  refine ⟨[(operation, .position referenced.1),
    (.edge source referenced.1, .added (referenced.2.addEdge source referenced.1).1)], ?_⟩
  rw [List.append_cons]
  exact referring.perform answered (if_pos ⟨sourceWithin, targetWithin⟩)

/-- Adding dependencies extends a run by the operations for them. -/
theorem foldl_addDependency (run : Run history graph) {source : Nat}
    (returned : .position source ∈ history.map Prod.snd) (dependencies : List (String × String)) :
    Extends history (dependencies.foldl (IndexedGraph.addDependency source) graph) := by
  induction dependencies generalizing history graph with
  | nil => exact ⟨[], by rwa [List.append_nil]⟩
  | cons dependency later inductionHypothesis =>
      obtain ⟨first, runFirst⟩ := run.addDependency returned dependency
      have stillReturned : .position source ∈ (history ++ first).map Prod.snd := by
        rw [List.map_append]
        exact List.mem_append_left _ returned
      obtain ⟨rest, runRest⟩ := inductionHypothesis runFirst stillReturned
      exact ⟨first ++ rest, by rwa [← List.append_assoc]⟩

/-- Adding a session extends a run by the operations for it. -/
theorem addSession (run : Run history graph) (session : Session) (path : Option Path) :
    Extends history (graph.addSession session path) := by
  rw [IndexedGraph.addSession]
  split
  · exact ⟨[], by rwa [List.append_nil]⟩
  · let sessionPath := (path.map Path.text).getD session.networkInfo.dataDirectory
    let own := graph.addSessionNode session.contractAddress session.contractName sessionPath
      (expressionsOf session)
    let operation : Operation := .sessionNode session.contractAddress session.contractName
      sessionPath (expressionsOf session)
    have owning : Run (history ++ [(operation, .position own.1)]) own.2 :=
      run.perform trivial rfl
    have returned : Answer.position own.1 ∈
        (history ++ [(operation, Answer.position own.1)]).map Prod.snd := by simp
    obtain ⟨rest, runRest⟩ := owning.foldl_addDependency returned session.externalAddresses
    exact ⟨(operation, .position own.1) :: rest, by rwa [List.append_cons]⟩

end Run

/-- The graph of any sessions comes about by a run: no edge is ever added at a position that has not
been answered before. -/
theorem exists_run_ofSessions (sessions : List (Session × Option Path)) :
    ∃ history, Run history (IndexedGraph.ofSessions sessions) := by
  induction sessions using List.reverseRecOn with
  | nil => exact ⟨[], .start⟩
  | append_singleton earlier added inductionHypothesis =>
      obtain ⟨history, run⟩ := inductionHypothesis
      obtain ⟨later, runLater⟩ := run.addSession added.1 added.2
      rw [IndexedGraph.ofSessions, List.foldl_append, List.foldl_cons, List.foldl_nil]
      exact ⟨history ++ later, runLater⟩

end IndexedGraph

end ContractAtlas

import ContractAtlas.Graph.Builder
import ContractAtlas.Proofs.Address

/-!
# Putting graphs together by addresses

What it means to add nodes, edges and sessions, said of a graph of addresses alone: a node is set in
place of the one with its address or else at the end, and an edge is added unless it is there. Every
way to add a node puts its address behind the others unless it is there already (`withAddress`).
-/

namespace ContractAtlas

namespace ContractGraph

open Text

/-! ## Addresses of nodes -/

/-- Two texts that are read as one address give one node. -/
theorem nodeId_of_parse {text : String} {address : Address}
    (read : Address.parse? text = some address) : nodeId text = address.checksummed := by
  simp [nodeId, Address.normalize?, read]

/-- A text that is no address gives a node by itself, without the blanks around it. -/
theorem nodeId_of_not_parsed {text : String} (unread : Address.parse? text = none) :
    nodeId text = trim text := by
  simp [nodeId, Address.normalize?, unread]

/-- The address of a node denotes what the texts that it stands for denote. -/
@[simp] theorem parse?_nodeId (text : String) :
    Address.parse? (nodeId text) = Address.parse? text := by
  cases read : Address.parse? text with
  | none => simp [nodeId, Address.normalize?, read]
  | some address => rw [nodeId_of_parse read, Address.parse?_checksummed]

/-- The address of a node is the normal form of itself. -/
@[simp] theorem nodeId_nodeId (text : String) : nodeId (nodeId text) = nodeId text := by
  have sameRead := parse?_nodeId text
  cases read : Address.parse? text with
  | none =>
      rw [nodeId_of_not_parsed (sameRead.trans read), nodeId_of_not_parsed read, trim_trim]
  | some address => rw [nodeId_of_parse (sameRead.trans read), nodeId_of_parse read]

@[simp] theorem address_sessionNode (address label sessionPath : String)
    (expressions : List String) :
    (sessionNode address label sessionPath expressions).address = nodeId address := by
  rw [sessionNode]
  split <;> rfl

@[simp] theorem analyzed_sessionNode (address label sessionPath : String)
    (expressions : List String) :
    (sessionNode address label sessionPath expressions).analyzed = true := by
  rw [sessionNode]
  split <;> rfl

@[simp] theorem address_referencedNode (address label : String) :
    (referencedNode address label).address = nodeId address := rfl

/-! ## Graphs of addresses -/

/-- The addresses of the nodes, in their order. -/
def addresses (graph : ContractGraph) : List String :=
  graph.nodes.map ContractNode.address

/-- Whether a contract has a node. -/
def contains (graph : ContractGraph) (address : String) : Bool :=
  graph.addresses.contains (nodeId address)

/-- The nodes with one of them set: in place of the one with its address, or else at the end. -/
def setNode (node : ContractNode) : List ContractNode → List ContractNode
  | [] => [node]
  | other :: later =>
      if other.address = node.address then node :: later else other :: setNode node later

/-- The graph with the node of an analyzed contract added or completed. -/
def addSessionNode (graph : ContractGraph) (address label sessionPath : String)
    (expressions : List String) : ContractGraph :=
  { graph with nodes := setNode (sessionNode address label sessionPath expressions) graph.nodes }

/-- The graph with the node of a referenced contract added, unless there is one. -/
def addReferencedNode (graph : ContractGraph) (address label : String) : ContractGraph :=
  if graph.contains address then graph
  else { graph with nodes := graph.nodes ++ [referencedNode address label] }

/-- Whether there is an edge between the nodes of two contracts. -/
def hasEdge (graph : ContractGraph) (source target : String) : Bool :=
  graph.edges.contains (nodeId source, nodeId target)

/-- The graph with an edge between the nodes of two contracts added, unless there is one. -/
def addEdge (graph : ContractGraph) (source target : String) : ContractGraph :=
  if graph.hasEdge source target then graph
  else { graph with edges := graph.edges ++ [(nodeId source, nodeId target)] }

/-- The graph with a dependency of a contract added: a name and an address. -/
def addDependency (source : String) (graph : ContractGraph) (dependency : String × String) :
    ContractGraph :=
  (graph.addReferencedNode dependency.2 dependency.1).addEdge source dependency.2

/-- The graph with a session added, whose document has the given path. -/
def addSession (graph : ContractGraph) (session : Session) (path : Option Path) : ContractGraph :=
  let address := session.contractAddress
  if (trim address).isEmpty then graph
  else
    let sessionPath := (path.map Path.text).getD session.networkInfo.dataDirectory
    let own := graph.addSessionNode address session.contractName sessionPath (expressionsOf session)
    session.externalAddresses.foldl (addDependency address) own

/-- A contract has a node if its address in normal form is one of the addresses. -/
theorem contains_iff {graph : ContractGraph} {address : String} :
    graph.contains address = true ↔ nodeId address ∈ graph.addresses := by
  rw [contains, List.contains_iff_mem]

/-! ## A list of addresses with one more -/

/-- A list of addresses with one more behind the others, unless it is there already. -/
def withAddress (known : List String) (id : String) : List String :=
  if id ∈ known then known else known ++ [id]

/-- Entering an address adds it and takes none away. -/
theorem mem_withAddress {known : List String} {id other : String} :
    other ∈ withAddress known id ↔ other ∈ known ∨ other = id := by
  rw [withAddress]
  split
  · rename_i present
    exact ⟨.inl, fun member => member.elim (fun old => old) fun same => same ▸ present⟩
  · simp

/-- An address is entered once. -/
theorem nodup_withAddress {known : List String} (distinct : known.Nodup) (id : String) :
    (withAddress known id).Nodup := by
  rw [withAddress]
  split
  · exact distinct
  · rename_i new
    exact List.nodup_append.mpr ⟨distinct, List.nodup_singleton id, by grind⟩

/-- The addresses that were known are the first ones. -/
theorem isPrefix_withAddress (known : List String) (id : String) :
    known <+: withAddress known id := by
  rw [withAddress]
  split
  · exact List.prefix_rfl
  · exact List.prefix_append _ _

/-! ## Setting a node -/

/-- Setting a node enters its address. -/
theorem map_address_setNode (node : ContractNode) (nodes : List ContractNode) :
    (setNode node nodes).map ContractNode.address =
      withAddress (nodes.map ContractNode.address) node.address := by
  induction nodes with
  | nil => simp [setNode, withAddress]
  | cons other later inductionHypothesis =>
      by_cases same : other.address = node.address
      · simp [setNode, same, withAddress]
      · have different : node.address ≠ other.address := Ne.symm same
        simp [setNode, same, inductionHypothesis, withAddress, different]
        split <;> simp

/-- A node that has been set is there. -/
theorem mem_setNode (node : ContractNode) (nodes : List ContractNode) :
    node ∈ setNode node nodes := by
  induction nodes with
  | nil => simp [setNode]
  | cons other later inductionHypothesis =>
      rw [setNode]
      split
      · exact List.mem_cons_self ..
      · exact List.mem_cons_of_mem _ inductionHypothesis

/-- Only a node at its own address gives way to a node that is set. -/
theorem mem_setNode_of_mem {node other : ContractNode} {nodes : List ContractNode}
    (member : other ∈ nodes) (different : other.address ≠ node.address) :
    other ∈ setNode node nodes := by
  induction nodes with
  | nil => cases member
  | cons first later inductionHypothesis =>
      rw [setNode]
      obtain rfl | member := List.mem_cons.mp member
      · simp [different]
      · split
        · exact List.mem_cons_of_mem _ member
        · exact List.mem_cons_of_mem _ (inductionHypothesis member)

/-- A node is set at the position of its address. -/
theorem setNode_eq_set {node : ContractNode} {nodes : List ContractNode} {place : Nat}
    (distinct : (nodes.map ContractNode.address).Nodup)
    (isAt : (nodes.map ContractNode.address)[place]? = some node.address) :
    setNode node nodes = nodes.set place node := by
  induction nodes generalizing place with
  | nil => cases isAt
  | cons first later inductionHypothesis =>
      obtain ⟨fresh, distinctLater⟩ := List.nodup_cons.mp distinct
      cases place with
      | zero =>
          have same : first.address = node.address := by simpa using isAt
          rw [setNode, if_pos same, List.set_cons_zero]
      | succ place =>
          have isAtLater : (later.map ContractNode.address)[place]? = some node.address := by
            simpa using isAt
          have different : first.address ≠ node.address := by
            rintro same
            exact fresh (same ▸ List.mem_of_getElem? isAtLater)
          rw [setNode, if_neg different, List.set_cons_succ,
            inductionHypothesis distinctLater isAtLater]

/-- A node with a new address is set at the end. -/
theorem setNode_eq_append {node : ContractNode} {nodes : List ContractNode}
    (fresh : node.address ∉ nodes.map ContractNode.address) :
    setNode node nodes = nodes ++ [node] := by
  induction nodes with
  | nil => rfl
  | cons first later inductionHypothesis =>
      rw [List.map_cons, List.mem_cons, not_or] at fresh
      rw [setNode, if_neg (Ne.symm fresh.1), inductionHypothesis fresh.2, List.cons_append]

/-! ## Addresses after an addition -/

/-- A session brings its address if that is new. -/
@[simp] theorem addresses_addSessionNode (graph : ContractGraph)
    (address label sessionPath : String) (expressions : List String) :
    (graph.addSessionNode address label sessionPath expressions).addresses =
      withAddress graph.addresses (nodeId address) := by
  simp [addSessionNode, addresses, map_address_setNode]

/-- A referenced address is added if it is new. -/
@[simp] theorem addresses_addReferencedNode (graph : ContractGraph) (address label : String) :
    (graph.addReferencedNode address label).addresses =
      withAddress graph.addresses (nodeId address) := by
  rw [addReferencedNode, withAddress]
  by_cases present : graph.contains address = true
  · rw [if_pos present, if_pos (contains_iff.mp present)]
  · rw [if_neg present, if_neg (fun member => present (contains_iff.mpr member))]
    simp [addresses]

/-- An edge leaves the nodes alone. -/
@[simp] theorem nodes_addEdge (graph : ContractGraph) (source target : String) :
    (graph.addEdge source target).nodes = graph.nodes := by
  rw [addEdge]
  split <;> rfl

/-- It does not matter whether an edge is added between contracts or between their nodes. -/
theorem addEdge_nodeId (graph : ContractGraph) (source target : String) :
    graph.addEdge (nodeId source) (nodeId target) = graph.addEdge source target := by
  simp [addEdge, hasEdge]

@[simp] theorem addresses_addEdge (graph : ContractGraph) (source target : String) :
    (graph.addEdge source target).addresses = graph.addresses := by
  simp [addresses]

end ContractGraph

end ContractAtlas

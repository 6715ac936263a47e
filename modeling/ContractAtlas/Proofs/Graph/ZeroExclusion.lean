import ContractAtlas.Proofs.Graph.Components

/-!
# Leaving the zero address out

Leaving nodes out of a graph goes past every operation that builds it: a node or an edge that is
kept is added to the graph that has been restricted before, and one that is left out changes nothing
there. So a graph without the zero address is the graph of the same sessions in which nobody ever
referred to it, up to the expressions of its nodes, and no statistic looks at expressions
(`analyze_excludeZero`).
-/

namespace ContractAtlas

open Text

/-- The session without its references to the zero address, in whatever spelling. -/
def Session.withoutZeroReferences (session : Session) : Session :=
  { session with
    contractData :=
      { session.contractData with
        externalAddresses := session.contractData.externalAddresses.map
          (List.filter fun dependency => !Address.isZeroText dependency.2) } }

namespace Session

@[simp] theorem networkInfo_withoutZeroReferences (session : Session) :
    session.withoutZeroReferences.networkInfo = session.networkInfo := rfl

@[simp] theorem contractAddress_withoutZeroReferences (session : Session) :
    session.withoutZeroReferences.contractAddress = session.contractAddress := rfl

@[simp] theorem contractName_withoutZeroReferences (session : Session) :
    session.withoutZeroReferences.contractName = session.contractName := rfl

/-- The dependencies that stay are those whose address is not zero. -/
theorem externalAddresses_withoutZeroReferences (session : Session) :
    session.withoutZeroReferences.externalAddresses =
      session.externalAddresses.filter fun dependency => !Address.isZeroText dependency.2 := by
  rw [externalAddresses, externalAddresses, withoutZeroReferences]
  cases session.contractData.externalAddresses <;> rfl

end Session

namespace ContractGraph

variable {graph : ContractGraph}

/-! ## Restriction and the operations -/

section

variable {keeps : String → Bool}

/-- Adding a session whose address is kept commutes with keeping part of a graph. -/
theorem restrict_addSessionNode {address : String} (kept : keeps (nodeId address) = true)
    (label sessionPath : String) (expressions : List String) :
    (graph.addSessionNode address label sessionPath expressions).restrict keeps =
      (graph.restrict keeps).addSessionNode address label sessionPath expressions := by
  have filter_setNode {node : ContractNode} (kept : keeps node.address = true)
      (nodes : List ContractNode) :
      (setNode node nodes).filter (fun node => keeps node.address) =
        setNode node (nodes.filter fun node => keeps node.address) := by
    induction nodes with
    | nil => simp [setNode, kept]
    | cons other later inductionHypothesis =>
        by_cases same : other.address = node.address
        · simp [setNode, same, kept]
        · by_cases otherKept : keeps other.address = true
          · simp [setNode, same, otherKept, inductionHypothesis]
          · simp [setNode, same, otherKept, inductionHypothesis]
  rw [addSessionNode, restrict, filter_setNode (by simpa using kept)]
  rfl

/-- An address that is kept has a node in the part of a graph exactly where it has one in the graph.
-/
theorem contains_restrict {address : String} (kept : keeps (nodeId address) = true) :
    (graph.restrict keeps).contains address = graph.contains address := by
  rw [Bool.eq_iff_iff, contains_iff, contains_iff, addresses_restrict, List.mem_filter]
  exact and_iff_left kept

/-- Adding a referenced address that is kept commutes with keeping part of a graph. -/
theorem restrict_addReferencedNode {address : String} (kept : keeps (nodeId address) = true)
    (label : String) :
    (graph.addReferencedNode address label).restrict keeps =
      (graph.restrict keeps).addReferencedNode address label := by
  rw [addReferencedNode, addReferencedNode, contains_restrict kept]
  split
  · rfl
  · simp [restrict, referencedNode, kept]

/-- The node of a contract that is left out is not missed. -/
theorem restrict_addReferencedNode_of_not_kept {address : String}
    (out : keeps (nodeId address) = false) (label : String) :
    (graph.addReferencedNode address label).restrict keeps = graph.restrict keeps := by
  rw [addReferencedNode]
  split
  · rfl
  · simp [restrict, referencedNode, out]

/-- Adding an edge between addresses that are kept commutes with keeping part of a graph. -/
theorem restrict_addEdge {source target : String} (keptSource : keeps (nodeId source) = true)
    (keptTarget : keeps (nodeId target) = true) :
    (graph.addEdge source target).restrict keeps =
      (graph.restrict keeps).addEdge source target := by
  have hasEdge_restrict : (graph.restrict keeps).hasEdge source target =
      graph.hasEdge source target := by
    simp [hasEdge, restrict, keptSource, keptTarget]
  rw [addEdge, addEdge, hasEdge_restrict]
  split
  · rfl
  · simp [restrict, keptSource, keptTarget]

/-- An edge to a contract that is left out is not missed. -/
theorem restrict_addEdge_of_not_kept {target : String} (out : keeps (nodeId target) = false)
    (source : String) : (graph.addEdge source target).restrict keeps = graph.restrict keeps := by
  rw [addEdge]
  split
  · rfl
  · simp [restrict, out]

/-- A graph that has only what is kept is not changed. -/
theorem WellFormed.restrict_eq_self (wellFormed : graph.WellFormed)
    (kept : ∀ id ∈ graph.addresses, keeps id = true) : graph.restrict keeps = graph := by
  have nodes : graph.nodes.filter (fun node => keeps node.address) = graph.nodes :=
    List.filter_eq_self.mpr fun node member => kept _ (List.mem_map_of_mem member)
  have edges : graph.edges.filter (fun edge => keeps edge.1 && keeps edge.2) = graph.edges :=
    List.filter_eq_self.mpr fun edge member => by
      simp [kept _ (wellFormed.source_mem edge member), kept _ (wellFormed.target_mem edge member)]
  rw [ContractGraph.restrict, nodes, edges]

end

/-! ## Expressions -/

/-- The graph without the expressions of its nodes. Which calls of a contract are among them depends
on the names of all its dependencies, those that are left out included. -/
def withoutExpressions (graph : ContractGraph) : ContractGraph :=
  { graph with nodes := graph.nodes.map fun node => { node with expressions := [] } }

@[simp] theorem addresses_withoutExpressions :
    graph.withoutExpressions.addresses = graph.addresses := by
  simp [addresses, withoutExpressions, Function.comp_def]

/-- A session adds the same node without its expressions. -/
theorem withoutExpressions_addSessionNode (address label sessionPath : String)
    (expressions : List String) :
    (graph.addSessionNode address label sessionPath expressions).withoutExpressions =
      graph.withoutExpressions.addSessionNode address label sessionPath [] := by
  have map_setNode (node : ContractNode) (nodes : List ContractNode) :
      (setNode node nodes).map (fun node => { node with expressions := [] }) =
        setNode { node with expressions := [] }
          (nodes.map fun node => { node with expressions := [] }) := by
    induction nodes with
    | nil => rfl
    | cons other later inductionHypothesis =>
        by_cases same : other.address = node.address
        · simp [setNode, same]
        · simp [setNode, same, inductionHypothesis]
  have node : { sessionNode address label sessionPath expressions with expressions := [] } =
      sessionNode address label sessionPath [] := by
    rw [sessionNode, sessionNode]
    split <;> rfl
  rw [addSessionNode, withoutExpressions, map_setNode, node]
  rfl

/-- A referenced address brings no expressions of its own. -/
theorem withoutExpressions_addReferencedNode (address label : String) :
    (graph.addReferencedNode address label).withoutExpressions =
      graph.withoutExpressions.addReferencedNode address label := by
  have contains : graph.withoutExpressions.contains address = graph.contains address := by
    rw [Bool.eq_iff_iff, contains_iff, contains_iff, addresses_withoutExpressions]
  rw [addReferencedNode, addReferencedNode, contains]
  split
  · rfl
  · simp [withoutExpressions, referencedNode]

/-- Edges do not depend on the expressions of nodes. -/
theorem withoutExpressions_addEdge (source target : String) :
    (graph.addEdge source target).withoutExpressions =
      graph.withoutExpressions.addEdge source target := by
  rw [addEdge, addEdge, show graph.withoutExpressions.hasEdge source target =
    graph.hasEdge source target from rfl]
  split <;> rfl

/-! ### What does not look at expressions -/

/-- The nodes of a graph without expressions are its nodes, each emptied of them. -/
theorem nodes_withoutExpressions : graph.withoutExpressions.nodes =
    graph.nodes.map fun node => { node with expressions := [] } := rfl

@[simp] theorem length_nodes_withoutExpressions :
    graph.withoutExpressions.nodes.length = graph.nodes.length := by
  rw [nodes_withoutExpressions, List.length_map]

@[simp] theorem edgePositions_withoutExpressions :
    graph.withoutExpressions.edgePositions = graph.edgePositions := by
  have position (id : String) : graph.withoutExpressions.position id = graph.position id := by
    rw [ContractGraph.position, addresses_withoutExpressions, ContractGraph.position]
  simp only [edgePositions_eq, position]
  rfl

@[simp] theorem length_isolated_withoutExpressions :
    (graph.withoutExpressions.nodes.filter graph.withoutExpressions.isIsolated).length =
      (graph.nodes.filter graph.isIsolated).length := by
  rw [nodes_withoutExpressions, List.filter_map, List.length_map]
  rfl

section

variable {α : Type} [Scalar α]

@[simp] theorem degreeScale_withoutExpressions :
    (graph.withoutExpressions.degreeScale : α) = graph.degreeScale := by
  rw [degreeScale, degreeScale, length_nodes_withoutExpressions]

@[simp] theorem degree_withoutExpressions (id : String) :
    (graph.withoutExpressions.degree id : α) = graph.degree id :=
  congrArg _ degreeScale_withoutExpressions

@[simp] theorem coreThreshold_withoutExpressions (percent : α) :
    graph.withoutExpressions.coreThreshold percent = graph.coreThreshold percent := by
  rw [coreThreshold, coreThreshold]
  simp only [degree_withoutExpressions]
  rw [nodes_withoutExpressions, List.map_map, Function.comp_def]

@[simp] theorem map_centralityOf_withoutExpressions (bound : α) :
    graph.withoutExpressions.nodes.map (graph.withoutExpressions.centralityOf bound) =
      graph.nodes.map (graph.centralityOf bound) := by
  rw [nodes_withoutExpressions, List.map_map]
  refine List.map_congr_left fun node _ => ?_
  simp only [Function.comp_apply, centralityOf, degree_withoutExpressions,
    degreeScale_withoutExpressions]
  rfl

@[simp] theorem components_withoutExpressions :
    (graph.withoutExpressions.components : List (Component α)) = graph.components := by
  have component : (graph.withoutExpressions.component : List Nat → Nat → Component α) =
      graph.component := by
    funext positions internalEdges
    rw [ContractGraph.component, ContractGraph.component, membersAt_eq, membersAt_eq,
      addresses_withoutExpressions]
  rw [components, components, length_nodes_withoutExpressions, edgePositions_withoutExpressions,
    component]

/-- No statistic looks at expressions. -/
theorem statistics_withoutExpressions (percent : α) :
    graph.withoutExpressions.statistics percent = graph.statistics percent := by
  rw [statistics, statistics, coreThreshold_withoutExpressions,
    map_centralityOf_withoutExpressions, components_withoutExpressions,
    length_isolated_withoutExpressions, length_nodes_withoutExpressions]
  rfl

end

/-! ## Sessions -/

/-- Whether the address of a node is that of a contract. -/
def isNonzero (id : String) : Bool :=
  !Address.isZeroText id

/-- The test of a node agrees with that of the text it was made from. -/
theorem isNonzero_nodeId {text : String} {isZero : Bool}
    (spelled : Address.isZeroText text = isZero) : isNonzero (nodeId text) = !isZero := by
  rw [isNonzero, Address.isZeroText, parse?_nodeId, ← Address.isZeroText, spelled]

/-- Leaving out the zero address is keeping every other address. -/
theorem withoutZero_eq_restrict : graph.withoutZero = graph.restrict isNonzero :=
  rfl

/-- What counts of a graph when the zero address is left out. -/
def outsideZero (graph : ContractGraph) : ContractGraph :=
  graph.withoutZero.withoutExpressions

/-- A session of a contract adds its node to what counts of a graph. -/
theorem outsideZero_addSessionNode {address : String} (nonzero : Address.isZeroText address = false)
    (label sessionPath : String) (expressions : List String) :
    (graph.addSessionNode address label sessionPath expressions).outsideZero =
      graph.outsideZero.addSessionNode address label sessionPath [] := by
  rw [outsideZero, withoutZero_eq_restrict, restrict_addSessionNode (isNonzero_nodeId nonzero),
    withoutExpressions_addSessionNode, outsideZero, withoutZero_eq_restrict]

/-- A reference to the zero address leaves no trace outside it. -/
theorem outsideZero_addDependency_zero {dependency : String × String}
    (isZero : Address.isZeroText dependency.2 = true) (source : String) :
    (graph.addDependency source dependency).outsideZero = graph.outsideZero := by
  have out := isNonzero_nodeId isZero
  rw [outsideZero, withoutZero_eq_restrict, addDependency, restrict_addEdge_of_not_kept out,
    restrict_addReferencedNode_of_not_kept out, outsideZero, withoutZero_eq_restrict]

/-- Any other reference is seen outside the zero address as if nothing had been left out. -/
theorem outsideZero_addDependency {source : String} {dependency : String × String}
    (nonzeroSource : Address.isZeroText source = false)
    (nonzero : Address.isZeroText dependency.2 = false) :
    (graph.addDependency source dependency).outsideZero =
      graph.outsideZero.addDependency source dependency := by
  have kept := isNonzero_nodeId nonzero
  rw [outsideZero, withoutZero_eq_restrict, addDependency,
    restrict_addEdge (isNonzero_nodeId nonzeroSource) kept, restrict_addReferencedNode kept,
    withoutExpressions_addEdge, withoutExpressions_addReferencedNode, addDependency, outsideZero,
    withoutZero_eq_restrict]

/-- Of the dependencies of a contract, what counts of a graph is given by those that are not zero.
-/
theorem outsideZero_foldl_addDependency {source : String}
    (nonzeroSource : Address.isZeroText source = false) (dependencies : List (String × String)) :
    (dependencies.foldl (addDependency source) graph).outsideZero =
      (dependencies.filter fun dependency => !Address.isZeroText dependency.2).foldl
        (addDependency source) graph.outsideZero := by
  induction dependencies generalizing graph with
  | nil => rfl
  | cons dependency later inductionHypothesis =>
      rw [List.foldl_cons, inductionHypothesis]
      by_cases isZero : Address.isZeroText dependency.2 = true
      · rw [outsideZero_addDependency_zero isZero, List.filter_cons_of_neg (by simpa using isZero)]
      · rw [Bool.not_eq_true] at isZero
        rw [outsideZero_addDependency nonzeroSource isZero,
          List.filter_cons_of_pos (by simpa using isZero), List.foldl_cons]

/-- Outside the zero address, a session adds as much with its references to it as without them. -/
theorem outsideZero_addSession {other : ContractGraph}
    (same : graph.outsideZero = other.outsideZero) {session : Session}
    (nonzero : Address.isZeroText session.contractAddress = false) (path : Option Path) :
    (graph.addSession session path).outsideZero =
      (other.addSession session.withoutZeroReferences path).outsideZero := by
  rw [addSession, addSession]
  simp only [Session.contractAddress_withoutZeroReferences,
    Session.contractName_withoutZeroReferences, Session.networkInfo_withoutZeroReferences,
    Session.externalAddresses_withoutZeroReferences]
  split
  · exact same
  · simp only [outsideZero_foldl_addDependency nonzero, outsideZero_addSessionNode nonzero,
      List.filter_filter, Bool.and_self, same]

/-- What counts of the graph of some sessions is what counts of the graph of the sessions without
their zero references. -/
theorem outsideZero_ofSessions (sessions : List (Session × Option Path))
    (nonzero : ∀ added ∈ sessions, Address.isZeroText added.1.contractAddress = false) :
    (ofSessions sessions).outsideZero =
      (ofSessions (sessions.map fun added =>
        (added.1.withoutZeroReferences, added.2))).outsideZero := by
  have foldl {graph other : ContractGraph} (same : graph.outsideZero = other.outsideZero) :
      (sessions.foldl (fun graph added => graph.addSession added.1 added.2) graph).outsideZero =
        ((sessions.map fun added => (added.1.withoutZeroReferences, added.2)).foldl
          (fun graph added => graph.addSession added.1 added.2) other).outsideZero := by
    induction sessions generalizing graph other with
    | nil => exact same
    | cons added later inductionHypothesis =>
        obtain ⟨first, others⟩ := List.forall_mem_cons.mp nonzero
        rw [List.map_cons, List.foldl_cons, List.foldl_cons]
        exact inductionHypothesis others (outsideZero_addSession same first added.2)
  rw [ofSessions_eq_foldl, ofSessions_eq_foldl]
  exact foldl rfl

/-- Nobody refers to the zero address where the references to it have been removed. -/
theorem withoutZero_ofSessions_withoutZeroReferences (sessions : List (Session × Option Path))
    (nonzero : ∀ added ∈ sessions, Address.isZeroText added.1.contractAddress = false) :
    let cleared := ofSessions (sessions.map fun added => (added.1.withoutZeroReferences, added.2))
    cleared.withoutZero = cleared := by
  intro cleared
  have wellFormed : cleared.WellFormed := (Built.ofSessions _).wellFormed
  rw [withoutZero_eq_restrict]
  refine wellFormed.restrict_eq_self fun id member => ?_
  obtain ⟨_, isAdded, text, mentioned, rfl⟩ := mem_addresses_ofSessions.mp member
  obtain ⟨added, isSession, rfl⟩ := List.mem_map.mp isAdded
  have spelled : Address.isZeroText text = false := by
    obtain ⟨_, own | ⟨name, listed⟩⟩ := mem_mentionsOf.mp mentioned
    · rw [own, Session.contractAddress_withoutZeroReferences]
      exact nonzero added isSession
    · rw [Session.externalAddresses_withoutZeroReferences] at listed
      simpa using (List.mem_filter.mp listed).2
  exact isNonzero_nodeId spelled

/-- An analysis that leaves the zero address out gives the statistics, in the same order, of the
sessions with every reference to that address removed, in whatever arithmetic and for whatever
percentile. The zero address is nobody's own here. -/
theorem analyze_excludeZero {α : Type} [Scalar α] (sessions : List (Session × Option Path))
    (nonzero : ∀ added ∈ sessions, Address.isZeroText added.1.contractAddress = false)
    (percent : α) :
    (ofSessions sessions).analyze ⟨true, percent⟩ =
      (ofSessions (sessions.map fun added => (added.1.withoutZeroReferences, added.2))).analyze
        ⟨false, percent⟩ := by
  let cleared := ofSessions (sessions.map fun added => (added.1.withoutZeroReferences, added.2))
  calc (ofSessions sessions).withoutZero.statistics percent
    _ = (ofSessions sessions).outsideZero.statistics percent :=
      (statistics_withoutExpressions percent).symm
    _ = cleared.outsideZero.statistics percent := by rw [outsideZero_ofSessions sessions nonzero]
    _ = cleared.withoutZero.statistics percent := statistics_withoutExpressions percent
    _ = cleared.statistics percent := by
      rw [withoutZero_ofSessions_withoutZeroReferences sessions nonzero]

/-- Two contracts that depend on each other. One burns, through an address with blanks around it,
the other has an address that nobody set. -/
def burningSessions : List (Session × Option Path) :=
  let session (address : String) (calls : List String) (dependencies : List (String × String)) :
      Session × Option Path :=
    ({ networkInfo := { contractAddress := address }
       contractData :=
        { externalCalls := some calls, externalAddresses := some dependencies } }, none)
  [session "0x1111111111111111111111111111111111111111" ["sink.take()", "vault.open()"]
    [("sink", " 0x0000000000000000000000000000000000000000\n"),
     ("vault", "0x2222222222222222222222222222222222222222")],
   session "0x2222222222222222222222222222222222222222" []
    [("owner", "0x1111111111111111111111111111111111111111"),
     ("unset", "0x0000000000000000000000000000000000000000")]]

/-- Each of the two loses the reference to zero, and nothing else is lost by leaving zero out. -/
theorem analyze_excludeZero_burning :
    let cleared := burningSessions.map fun added => (added.1.withoutZeroReferences, added.2)
    (∀ added ∈ burningSessions, Address.isZeroText added.1.contractAddress = false) ∧
      (cleared.map fun added => added.1.externalAddresses.map Prod.fst) = [["vault"], ["owner"]] ∧
      (ofSessions burningSessions).analyze ⟨true, (75 : Float)⟩ =
        (ofSessions cleared).analyze ⟨false, (75 : Float)⟩ := by
  have nonzero : ∀ added ∈ burningSessions,
      Address.isZeroText added.1.contractAddress = false := by decide
  have remaining : (burningSessions.map fun added =>
      added.1.withoutZeroReferences.externalAddresses.map Prod.fst) = [["vault"], ["owner"]] := by
    decide
  have same := analyze_excludeZero burningSessions nonzero (75 : Float)
  intro cleared
  exact ⟨nonzero, by rwa [List.map_map], same⟩

end ContractGraph

end ContractAtlas

import ContractAtlas.Proofs.Graph.Indexing

/-!
# The nodes of a graph

The addresses of a graph of sessions are those that the sessions mention, each once, in the order in
which they come up. A node that has been analyzed stays analyzed.
-/

namespace ContractAtlas

namespace ContractGraph

open Text

/-! ## The addresses that sessions mention -/

/-- The addresses that a session mentions in a graph: its own and those of its dependencies, none if
its own is blank. -/
def mentionsOf (session : Session) : List String :=
  if (trim session.contractAddress).isEmpty then []
  else session.contractAddress :: session.externalAddresses.map Prod.snd

/-- A session with an address mentions its own and those of its dependencies. -/
theorem mem_mentionsOf {session : Session} {address : String} :
    address ∈ mentionsOf session ↔ (trim session.contractAddress).isEmpty = false ∧
      (address = session.contractAddress ∨
        ∃ name, (name, address) ∈ session.externalAddresses) := by
  rw [mentionsOf]
  split
  · simp_all
  · simp_all

/-- Dependencies enter their addresses one after the other. -/
theorem addresses_foldl_addDependency (source : String) (dependencies : List (String × String))
    (graph : ContractGraph) :
    (dependencies.foldl (addDependency source) graph).addresses =
      ((dependencies.map Prod.snd).map nodeId).foldl withAddress graph.addresses := by
  induction dependencies generalizing graph with
  | nil => rfl
  | cons dependency later inductionHypothesis =>
      simp [inductionHypothesis, addDependency]

/-- A session enters the addresses that it mentions. -/
theorem addresses_addSession (graph : ContractGraph) (session : Session) (path : Option Path) :
    (graph.addSession session path).addresses =
      ((mentionsOf session).map nodeId).foldl withAddress graph.addresses := by
  rw [addSession, mentionsOf]
  split
  · rfl
  · simp [addresses_foldl_addDependency]

/-- Sessions enter the addresses that they mention one after the other. -/
theorem addresses_foldl_addSession (sessions : List (Session × Option Path))
    (graph : ContractGraph) :
    (sessions.foldl (fun graph added => graph.addSession added.1 added.2) graph).addresses =
      (sessions.flatMap fun added => (mentionsOf added.1).map nodeId).foldl withAddress
        graph.addresses := by
  induction sessions generalizing graph with
  | nil => rfl
  | cons added later inductionHypothesis =>
      simp [inductionHypothesis, addresses_addSession]

/-- The addresses of the graph of some sessions are those that they mention, in the order in which
they come up, each at its first place. -/
theorem addresses_ofSessions (sessions : List (Session × Option Path)) :
    (ofSessions sessions).addresses =
      (sessions.flatMap fun added => (mentionsOf added.1).map nodeId).foldl withAddress [] := by
  rw [ofSessions_eq_foldl]
  exact addresses_foldl_addSession sessions {}

/-- Entering addresses adds them and takes none away. -/
theorem mem_foldl_withAddress {ids known : List String} {id : String} :
    id ∈ ids.foldl withAddress known ↔ id ∈ known ∨ id ∈ ids := by
  induction ids generalizing known with
  | nil => simp
  | cons first later inductionHypothesis =>
      rw [List.foldl_cons, inductionHypothesis, mem_withAddress, List.mem_cons, or_assoc]

/-- However often addresses are entered, none is there twice. -/
theorem nodup_foldl_withAddress (ids : List String) {known : List String}
    (distinct : known.Nodup) : (ids.foldl withAddress known).Nodup := by
  induction ids generalizing known with
  | nil => exact distinct
  | cons first later inductionHypothesis =>
      exact inductionHypothesis (nodup_withAddress distinct first)

/-- No two nodes of a graph of sessions have the same address. -/
theorem nodup_addresses_ofSessions (sessions : List (Session × Option Path)) :
    (ofSessions sessions).addresses.Nodup := by
  rw [addresses_ofSessions]
  exact nodup_foldl_withAddress _ List.nodup_nil

/-- The graph of some sessions has a node for exactly the addresses that they mention. -/
theorem mem_addresses_ofSessions {sessions : List (Session × Option Path)} {id : String} :
    id ∈ (ofSessions sessions).addresses ↔
      ∃ added ∈ sessions, ∃ address ∈ mentionsOf added.1, nodeId address = id := by
  simp [addresses_ofSessions, mem_foldl_withAddress]

/-! ## Analyzed nodes -/

/-- Whether some node at an address is analyzed. -/
def AnalyzedAt (graph : ContractGraph) (id : String) : Prop :=
  ∃ node ∈ graph.nodes, node.address = id ∧ node.analyzed = true

namespace AnalyzedAt

variable {graph : ContractGraph} {id : String}

/-- An analyzed node stays analyzed when the node of a session is added, at the same address or
another. -/
theorem addSessionNode (analyzed : graph.AnalyzedAt id) (address label sessionPath : String)
    (expressions : List String) :
    (graph.addSessionNode address label sessionPath expressions).AnalyzedAt id := by
  obtain ⟨node, member, rfl, marked⟩ := analyzed
  by_cases same : node.address = nodeId address
  · exact ⟨_, mem_setNode _ _, by simp [same], analyzed_sessionNode ..⟩
  · exact ⟨node, mem_setNode_of_mem member (by simpa using same), rfl, marked⟩

/-- It stays analyzed when some session depends on it. -/
theorem addDependency (analyzed : graph.AnalyzedAt id) (source : String)
    (dependency : String × String) : (graph.addDependency source dependency).AnalyzedAt id := by
  obtain ⟨node, member, located, marked⟩ := analyzed
  refine ⟨node, ?_, located, marked⟩
  rw [ContractGraph.addDependency, nodes_addEdge, addReferencedNode]
  split
  · exact member
  · exact List.mem_append_left _ member

/-- It stays so through all dependencies of a session. -/
theorem foldl_addDependency (analyzed : graph.AnalyzedAt id) (source : String)
    (dependencies : List (String × String)) :
    (dependencies.foldl (ContractGraph.addDependency source) graph).AnalyzedAt id := by
  induction dependencies generalizing graph with
  | nil => exact analyzed
  | cons dependency later inductionHypothesis =>
      exact inductionHypothesis (analyzed.addDependency source dependency)

/-- A node that has been analyzed stays analyzed when sessions are added. -/
theorem addSession (analyzed : graph.AnalyzedAt id) (session : Session) (path : Option Path) :
    (graph.addSession session path).AnalyzedAt id := by
  rw [ContractGraph.addSession]
  split
  · exact analyzed
  · exact (analyzed.addSessionNode _ _ _ _).foldl_addDependency _ _

/-- It stays so through all sessions to come. -/
theorem foldl_addSession (analyzed : graph.AnalyzedAt id)
    (sessions : List (Session × Option Path)) :
    (sessions.foldl (fun graph added => graph.addSession added.1 added.2) graph).AnalyzedAt id := by
  induction sessions generalizing graph with
  | nil => exact analyzed
  | cons added later inductionHypothesis =>
      rw [List.foldl_cons]
      exact inductionHypothesis (analyzed.addSession added.1 added.2)

end AnalyzedAt

/-- The node of a session is analyzed as soon as the session has been added. -/
theorem analyzedAt_addSession (graph : ContractGraph) {session : Session} (path : Option Path)
    (named : (trim session.contractAddress).isEmpty = false) :
    (graph.addSession session path).AnalyzedAt (nodeId session.contractAddress) := by
  rw [addSession, if_neg (by simp [named])]
  refine AnalyzedAt.foldl_addDependency ?_ _ _
  exact ⟨_, mem_setNode _ _, address_sessionNode .., analyzed_sessionNode ..⟩

/-- Every session with an address has an analyzed node in the graph. -/
theorem analyzedAt_ofSessions {sessions : List (Session × Option Path)}
    {added : Session × Option Path} (member : added ∈ sessions)
    (named : (trim added.1.contractAddress).isEmpty = false) :
    (ofSessions sessions).AnalyzedAt (nodeId added.1.contractAddress) := by
  obtain ⟨before, after, rfl⟩ := List.append_of_mem member
  rw [ofSessions_eq_foldl, List.foldl_append, List.foldl_cons]
  exact (analyzedAt_addSession _ added.2 named).foldl_addSession after

/-- Where addresses are distinct, the analyzed node at an address is the only node there. -/
theorem AnalyzedAt.analyzed_eq {graph : ContractGraph} {node : ContractNode}
    (analyzed : graph.AnalyzedAt node.address) (distinct : graph.addresses.Nodup)
    (member : node ∈ graph.nodes) : node.analyzed = true := by
  obtain ⟨other, otherMember, same, marked⟩ := analyzed
  rw [← List.inj_on_of_nodup_map distinct otherMember member same]
  exact marked

end ContractGraph

end ContractAtlas

import ContractAtlas.Proofs.Graph.Components
import ContractAtlas.Proofs.Graph.Description
import ContractAtlas.Proofs.Graph.Rational

/-!
# Statistics and the order of sessions

Sessions that are read in another order give a graph with the same nodes and edges in another order,
and maybe with other labels, since a contract with several sessions is shown as the last of them
says. The figures of an analysis come out the same: the components of a graph are determined by its
nodes and edges as sets, their order by their members, and the other figures count or sort
(`sameFigures_of_perm`).
-/

namespace ContractAtlas

attribute [ext] Component

open Reachability (Edge Mutual)

namespace ContractGraph

variable {left right graph : ContractGraph}

/-! ## Graphs of one shape -/

/-- Two graphs with the same nodes and edges, in whatever order. What is said about a node does not
count. -/
structure SameShape (left right : ContractGraph) : Prop where
  addresses_perm : left.addresses.Perm right.addresses
  edges_perm : left.edges.Perm right.edges

namespace SameShape

/-- Restricting two graphs of one shape alike gives two graphs of one shape. -/
theorem restrict (same : left.SameShape right) (keeps : String → Bool) :
    (left.restrict keeps).SameShape (right.restrict keeps) where
  addresses_perm := by
    rw [addresses_restrict, addresses_restrict]
    exact same.addresses_perm.filter keeps
  edges_perm := same.edges_perm.filter _

/-- Graphs of one shape have equally many nodes. -/
theorem length_nodes (same : left.SameShape right) : left.nodes.length = right.nodes.length := by
  rw [← length_addresses, same.addresses_perm.length_eq, length_addresses]

/-- Graphs of one shape have the same calls of every node. -/
theorem inDegree_eq (same : left.SameShape right) : left.inDegree = right.inDegree :=
  funext fun _ => (same.edges_perm.filter _).length_eq

/-- Graphs of one shape have the same calls from every node. -/
theorem outDegree_eq (same : left.SameShape right) : left.outDegree = right.outDegree :=
  funext fun _ => (same.edges_perm.filter _).length_eq

/-- Graphs of one shape have the same edges. -/
theorem edge_eq (same : left.SameShape right) : Edge left.edges = Edge right.edges := by
  funext source target
  exact propext same.edges_perm.mem_iff

end SameShape

/-- Erasing duplicates from a list in another order gives the same items in another order. -/
theorem eraseDups_perm {α : Type} [BEq α] [LawfulBEq α] {items others : List α}
    (perm : items.Perm others) : items.eraseDups.Perm others.eraseDups := by
  refine (List.perm_ext_iff_of_nodup (nodup_eraseDups _) (nodup_eraseDups _)).mpr fun item => ?_
  rw [List.mem_eraseDups, List.mem_eraseDups, perm.mem_iff]

/-- The graphs of some sessions in two orders have the same shape. -/
theorem sameShape_ofSessions {left right : List (Session × Option Path)}
    (perm : left.Perm right) : (ofSessions left).SameShape (ofSessions right) := by
  have mentions := perm.flatMap_right mentionsBy
  rw [ofSessions_eq_mentions, ofSessions_eq_mentions]
  refine ⟨?_, eraseDups_perm (mentions.filterMap Mention.edge?)⟩
  rw [addresses_described, addresses_described]
  exact eraseDups_perm (mentions.map Mention.id)

/-! ## Components -/

section

variable {α : Type} {components others : List (Component α)}

/-- Components that are the classes of a graph are those of every graph of the same shape. -/
theorem ReportsClasses.of_sameShape (reports : left.ReportsClasses components)
    (same : left.SameShape right) : right.ReportsClasses components where
  members_perm := reports.members_perm.trans same.addresses_perm
  exactly_one id member := reports.exactly_one id (same.addresses_perm.mem_iff.mpr member)
  shared_iff first ofFirst second ofSecond := by
    rw [← same.edge_eq]
    exact reports.shared_iff first (same.addresses_perm.mem_iff.mpr ofFirst) second
      (same.addresses_perm.mem_iff.mpr ofSecond)
  members_ne_nil := reports.members_ne_nil
  members_sorted := reports.members_sorted
  size_eq := reports.size_eq
  internalEdges_eq := by
    rw [← List.toFinset_eq_of_perm _ _ same.edges_perm]
    exact reports.internalEdges_eq
  sorted := reports.sorted

namespace ReportsClasses

/-- Every report of the classes has a component with the same members. -/
theorem exists_members_eq (reports : graph.ReportsClasses components)
    (reportsOthers : graph.ReportsClasses others) {component : Component α}
    (isComponent : component ∈ components) :
    ∃ other ∈ others, other.members = component.members := by
  obtain ⟨id, member⟩ := List.exists_mem_of_ne_nil _ (reports.members_ne_nil _ isComponent)
  obtain ⟨other, isOther, otherMember⟩ := List.mem_flatMap.mp
    (reportsOthers.members_perm.mem_iff.mpr (reports.mem_addresses isComponent member))
  have mem_iff (name : String) : name ∈ other.members ↔ name ∈ component.members := by
    rw [reportsOthers.mem_members_iff isOther otherMember,
      reports.mem_members_iff isComponent member]
  exact ⟨other, isOther, (reportsOthers.members_sorted _ isOther).eq_of_mem_iff
    (reports.members_sorted _ isComponent) mem_iff⟩

/-- A component that is in one report of the classes is in every other one, if densities are the
same function of the numbers of nodes and edges. -/
theorem mem_of_mem (reports : graph.ReportsClasses components)
    (reportsOthers : graph.ReportsClasses others) {density : Nat → Nat → α}
    (density_eq : ∀ component ∈ components,
      component.density = density component.size component.internalEdges)
    (density_others : ∀ component ∈ others,
      component.density = density component.size component.internalEdges)
    {component : Component α} (isComponent : component ∈ components) : component ∈ others := by
  obtain ⟨other, isOther, members_eq⟩ := reports.exists_members_eq reportsOthers isComponent
  have size_eq : other.size = component.size := by
    rw [reportsOthers.size_eq other isOther, members_eq, reports.size_eq component isComponent]
  have internalEdges_eq : other.internalEdges = component.internalEdges := by
    rw [reportsOthers.internalEdges_eq other isOther, members_eq,
      reports.internalEdges_eq component isComponent]
  have same : other = component := by
    refine Component.ext members_eq size_eq internalEdges_eq ?_
    rw [density_others other isOther, size_eq, internalEdges_eq, density_eq component isComponent]
  exact same ▸ isOther

/-- So all reports of the classes of a graph are the same list. -/
theorem components_eq (reports : graph.ReportsClasses components)
    (reportsOthers : graph.ReportsClasses others) {density : Nat → Nat → α}
    (density_eq : ∀ component ∈ components,
      component.density = density component.size component.internalEdges)
    (density_others : ∀ component ∈ others,
      component.density = density component.size component.internalEdges) :
    components = others := by
  have irreflexive : Std.Irrefl fun left right : Component α =>
      right.size < left.size ∨ left.size = right.size ∧ left.members < right.members :=
    ⟨fun component => by simp⟩
  have antisymmetric : Std.Antisymm fun left right : Component α =>
      right.size < left.size ∨ left.size = right.size ∧ left.members < right.members := by
    refine ⟨fun left right before after => ?_⟩
    obtain larger | ⟨same, less⟩ := before
    · omega
    · obtain larger | ⟨_, more⟩ := after
      · omega
      · exact absurd more less.asymm
  exact reports.sorted.eq_of_mem_iff reportsOthers.sorted fun component =>
    ⟨reports.mem_of_mem reportsOthers density_eq density_others,
      reportsOthers.mem_of_mem reports density_others density_eq⟩

end ReportsClasses

end

section

variable {α : Type} [Scalar α]

/-- Graphs of one shape have the same components, in the same order. -/
theorem SameShape.components_eq (same : left.SameShape right) (wellFormedLeft : left.WellFormed)
    (wellFormedRight : right.WellFormed) :
    (left.components : List (Component α)) = right.components :=
  (wellFormedLeft.reportsClasses.of_sameShape same).components_eq wellFormedRight.reportsClasses
    wellFormedLeft.density_eq wellFormedRight.density_eq

end

/-! ## Figures -/

section

variable {α : Type}

/-- The figures of a node, without its label. -/
def figures (node : NodeCentrality α) : α × α × α × NodeRole :=
  (node.degree, node.inDegree, node.outDegree, node.role)

/-- Two statistics that tell the same about a graph, up to the order and the labels of its nodes. -/
structure SameFigures (left right : GraphStatistics α) : Prop where
  nodeCount : left.nodeCount = right.nodeCount
  edgeCount : left.edgeCount = right.edgeCount
  centralityThreshold : left.centralityThreshold = right.centralityThreshold
  components : left.components = right.components
  componentSizes : left.componentSizes = right.componentSizes
  clusterStrength : left.clusterStrength = right.clusterStrength
  isolatedNodes : left.isolatedNodes = right.isolatedNodes
  networkSize : left.networkSize = right.networkSize
  core_perm : left.core.Perm right.core
  periphery_perm : left.periphery.Perm right.periphery
  centralityOf : ∀ address,
    (left.centralityOf? address).map figures = (right.centralityOf? address).map figures

variable [Scalar α]

/-- The role of the node at an address. -/
def roleAt (graph : ContractGraph) (threshold : α) (id : String) : NodeRole :=
  if Scalar.less threshold (graph.degree id) then .core else .periphery

/-- The figures of the node at an address. -/
def figuresAt (graph : ContractGraph) (threshold : α) (id : String) : α × α × α × NodeRole :=
  (graph.degree id, Scalar.ofNat (graph.inDegree id) * graph.degreeScale,
    Scalar.ofNat (graph.outDegree id) * graph.degreeScale, graph.roleAt threshold id)

/-- The nodes with some role are those whose address has it. -/
theorem addresses_filter_role (threshold : α) (role : NodeRole) :
    ((graph.nodes.map (graph.centralityOf threshold)).filter fun node => node.role = role).map
        NodeCentrality.address =
      graph.addresses.filter fun id => graph.roleAt threshold id = role := by
  rw [List.filter_map, List.map_map, addresses, List.filter_map]
  rfl

/-- What is said about the node at an address, its label aside, does not depend on the node. -/
theorem figures_centralityOf (threshold : α) (address : String) :
    ((graph.nodes.map (graph.centralityOf threshold)).find? fun node =>
        node.address = address).map figures =
      if address ∈ graph.addresses then some (graph.figuresAt threshold address) else none := by
  have isAt : ((fun node : NodeCentrality α => decide (node.address = address)) ∘
      graph.centralityOf threshold) = fun node => decide (node.address = address) := rfl
  rw [List.find?_map, isAt]
  cases found : graph.nodes.find? fun node => node.address = address with
  | none =>
      have missing : address ∉ graph.addresses := by
        rw [addresses, List.mem_map]
        rintro ⟨node, member, located⟩
        exact List.find?_eq_none.mp found node member (decide_eq_true located)
      rw [if_neg missing]
      rfl
  | some node =>
      obtain rfl : node.address = address := by simpa using List.find?_some found
      have isNode : node.address ∈ graph.addresses :=
        List.mem_map_of_mem (List.mem_of_find?_eq_some found)
      rw [if_pos isNode]
      rfl

/-- How many nodes are isolated can be told from the addresses and the edges. -/
theorem length_filter_isIsolated :
    (graph.nodes.filter graph.isIsolated).length =
      (graph.addresses.filter fun id =>
        graph.edges.all fun edge => edge.1 != id && edge.2 != id).length := by
  rw [addresses, List.filter_map, List.length_map]
  rfl

/-- The threshold is the percentile of the degrees of all addresses. -/
theorem coreThreshold_eq (percent : α) :
    graph.coreThreshold percent = percentile (graph.addresses.map graph.degree) percent := by
  rw [coreThreshold, addresses, List.map_map]
  rfl

namespace SameShape

/-- Graphs of one shape scale degrees alike. -/
theorem degreeScale_eq (same : left.SameShape right) :
    (left.degreeScale : α) = right.degreeScale := by
  rw [degreeScale, same.length_nodes, degreeScale]

/-- Graphs of one shape have the same degrees. -/
theorem degree_eq (same : left.SameShape right) : (left.degree : String → α) = right.degree := by
  funext id
  rw [degree, same.inDegree_eq, same.outDegree_eq, same.degreeScale_eq, degree]

/-- Graphs of one shape give every node the same role. -/
theorem roleAt_eq (same : left.SameShape right) :
    (left.roleAt : α → String → NodeRole) = right.roleAt := by
  funext threshold id
  rw [roleAt, same.degree_eq, roleAt]

/-- Graphs of one shape give every node the same figures. -/
theorem figuresAt_eq (same : left.SameShape right) :
    (left.figuresAt : α → String → α × α × α × NodeRole) = right.figuresAt := by
  funext threshold id
  rw [figuresAt, same.degree_eq, same.inDegree_eq, same.outDegree_eq, same.degreeScale_eq,
    same.roleAt_eq, figuresAt]

end SameShape

end

/-- Graphs of one shape have the same figures. -/
theorem SameShape.sameFigures (same : left.SameShape right) (wellFormedLeft : left.WellFormed)
    (wellFormedRight : right.WellFormed) (percent : ℚ) :
    SameFigures (left.statistics percent) (right.statistics percent) := by
  have nodeCount := same.length_nodes
  have edgeCount : left.edges.length = right.edges.length := same.edges_perm.length_eq
  have components : (left.components : List (Component ℚ)) = right.components :=
    same.components_eq wellFormedLeft wellFormedRight
  have threshold : left.coreThreshold percent = right.coreThreshold percent := by
    rw [coreThreshold_eq, coreThreshold_eq, same.degree_eq]
    exact percentile_eq_of_perm (same.addresses_perm.map _) percent
  have role_perm (role : NodeRole) :
      (left.addresses.filter fun id => left.roleAt (left.coreThreshold percent) id = role).Perm
        (right.addresses.filter fun id =>
          right.roleAt (right.coreThreshold percent) id = role) := by
    rw [threshold, same.roleAt_eq]
    exact same.addresses_perm.filter _
  constructor
  case nodeCount => exact nodeCount
  case edgeCount => exact edgeCount
  case centralityThreshold => exact threshold
  case components => exact components
  case componentSizes => exact congrArg (List.map Component.size) components
  case clusterStrength => simp only [statistics, components]
  case networkSize => simp only [statistics, nodeCount, edgeCount]
  case isolatedNodes =>
    have untouched (id : String) :
        (left.edges.all fun edge => edge.1 != id && edge.2 != id) =
          right.edges.all fun edge => edge.1 != id && edge.2 != id := by
      rw [Bool.eq_iff_iff, List.all_eq_true, List.all_eq_true]
      simp only [same.edges_perm.mem_iff]
    simp only [statistics, length_filter_isIsolated, untouched]
    exact (same.addresses_perm.filter _).length_eq
  case core_perm =>
    simp only [statistics, addresses_filter_role]
    exact role_perm .core
  case periphery_perm =>
    simp only [statistics, addresses_filter_role]
    exact role_perm .periphery
  case centralityOf =>
    intro address
    simp only [statistics, GraphStatistics.centralityOf?, figures_centralityOf, threshold,
      same.figuresAt_eq, same.addresses_perm.mem_iff]

/-- Sessions that are read in another order give the same statistics in exact arithmetic, up to the
order and the labels of nodes, also where several sessions have one address: `SameFigures`. -/
theorem sameFigures_of_perm {left right : List (Session × Option Path)} (perm : left.Perm right)
    (options : AnalysisOptions ℚ) :
    SameFigures ((ofSessions left).analyze options) ((ofSessions right).analyze options) := by
  have same := sameShape_ofSessions perm
  have wellFormedLeft := (Built.ofSessions left).wellFormed_analyzed options.excludeZero
  have wellFormedRight := (Built.ofSessions right).wellFormed_analyzed options.excludeZero
  have sameAnalyzed :
      (if options.excludeZero then (ofSessions left).withoutZero else ofSessions left).SameShape
        (if options.excludeZero then (ofSessions right).withoutZero else ofSessions right) := by
    split
    · exact same.restrict _
    · exact same
  exact sameAnalyzed.sameFigures wellFormedLeft wellFormedRight options.corePercentile

/-- A session of a contract under some name that depends on one other contract. -/
def dependentSession (name address dependency : String) : Session × Option Path :=
  ({ networkInfo := { contractName := name, contractAddress := address }
     contractData := { externalAddresses := some [("dependency", dependency)] } }, none)

/-- Two sessions of one contract, which they spell and name differently. Whichever is read last
gives the contract its label. -/
theorem sameFigures_of_two_sessions :
    let old := dependentSession "VaultV1" "0x00000000000000000000000000000000000000aA"
      "0x1111111111111111111111111111111111111111"
    let new := dependentSession "VaultV2" " 0x00000000000000000000000000000000000000Aa"
      "0x0000000000000000000000000000000000000000"
    [old, new].Perm [new, old] ∧
      SameFigures ((ofSessions [old, new]).analyze ⟨true, (75 : ℚ)⟩)
        ((ofSessions [new, old]).analyze ⟨true, (75 : ℚ)⟩) := by
  intro old new
  have perm : [old, new].Perm [new, old] := .swap new old []
  exact ⟨perm, sameFigures_of_perm perm ⟨true, 75⟩⟩

end ContractGraph

end ContractAtlas

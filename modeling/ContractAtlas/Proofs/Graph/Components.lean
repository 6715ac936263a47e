import ContractAtlas.Proofs.Graph.Construction
import ContractAtlas.Proofs.Graph.Cycles
import ContractAtlas.Proofs.Graph.InternalEdges

/-!
# The components of a graph

The search for components works on positions, the report names addresses. In a well-formed graph the
positions of nodes and their addresses correspond, so what holds of the classes of positions holds
of the components: `ReportsClasses` lists it.
-/

namespace ContractAtlas

open Reachability (Edge Mutual)
open Relation (ReflTransGen)
open scoped List

namespace ContractGraph

variable {graph : ContractGraph}

/-! ## Positions and addresses -/

/-- The position of the node with an address. -/
def position (graph : ContractGraph) (id : String) : Nat :=
  graph.addresses.idxOf id

/-- The position of an address is that of its node. -/
theorem findIdx_eq_position (id : String) :
    graph.nodes.findIdx (fun node => node.address = id) = graph.position id := by
  rw [position, addresses, List.idxOf, List.findIdx_map]
  rfl

/-- The edges are searched by the positions of their ends. -/
theorem edgePositions_eq :
    graph.edgePositions =
      graph.edges.map fun edge => (graph.position edge.1, graph.position edge.2) := by
  simp only [edgePositions, findIdx_eq_position]

/-- There is one address for every node. -/
theorem length_addresses : graph.addresses.length = graph.nodes.length :=
  List.length_map _

/-- An address has a position exactly if there is a node for it. -/
theorem position_lt_iff {id : String} :
    graph.position id < graph.nodes.length ↔ id ∈ graph.addresses := by
  rw [← length_addresses, position, List.idxOf_lt_length_iff]

/-- At its position stands the address. -/
theorem getElem?_position {id : String} (member : id ∈ graph.addresses) :
    graph.addresses[graph.position id]? = some id := by
  rw [List.getElem?_eq_some_iff]
  exact ⟨List.idxOf_lt_length_iff.mpr member, List.getElem_idxOf _⟩

namespace WellFormed

/-- Both ends of an edge have a position. -/
theorem positions_lt (wellFormed : graph.WellFormed) :
    ∀ edge ∈ graph.edgePositions, edge.1 < graph.nodes.length ∧ edge.2 < graph.nodes.length := by
  simp only [edgePositions_eq, List.forall_mem_map, position_lt_iff]
  exact fun edge member => ⟨wellFormed.source_mem edge member, wellFormed.target_mem edge member⟩

/-- The target of an edge has a position. -/
theorem target_lt (wellFormed : graph.WellFormed) :
    ∀ edge ∈ graph.edgePositions, edge.2 < graph.nodes.length :=
  fun edge member => (wellFormed.positions_lt edge member).2

/-- As no address stands twice, an address has the position at which it stands. -/
theorem position_eq (wellFormed : graph.WellFormed) {place : Nat} {id : String}
    (found : graph.addresses[place]? = some id) : graph.position id = place := by
  obtain ⟨inside, rfl⟩ := List.getElem?_eq_some_iff.mp found
  exact wellFormed.nodup_addresses.idxOf_getElem place inside

/-- Positions reach each other along edges as the addresses do. -/
theorem reaches_position_iff (wellFormed : graph.WellFormed) {left right : String}
    (ofLeft : left ∈ graph.addresses) (ofRight : right ∈ graph.addresses) :
    ReflTransGen (Edge graph.edgePositions) (graph.position left) (graph.position right) ↔
      ReflTransGen (Edge graph.edges) left right := by
  constructor
  · intro leads
    have along : Edge graph.edgePositions ≤ Function.onFun (Edge graph.edges)
        fun place => (graph.addresses[place]?).getD "" := by
      intro source target edge
      rw [Edge, edgePositions_eq] at edge
      obtain ⟨named, member, same⟩ := List.mem_map.mp edge
      cases same
      simpa [Function.onFun, Edge, getElem?_position (wellFormed.source_mem named member),
        getElem?_position (wellFormed.target_mem named member)] using member
    simpa [Function.onFun, getElem?_position ofLeft, getElem?_position ofRight] using
      ReflTransGen.lift _ along _ _ leads
  · have along : Edge graph.edges ≤ Function.onFun (Edge graph.edgePositions) graph.position := by
      intro source target edge
      rw [Function.onFun, Edge, edgePositions_eq]
      exact List.mem_map_of_mem edge
    exact ReflTransGen.lift _ along _ _

/-- Two nodes reach each other exactly if their positions do. -/
theorem mutual_position_iff (wellFormed : graph.WellFormed) {left right : String}
    (ofLeft : left ∈ graph.addresses) (ofRight : right ∈ graph.addresses) :
    Mutual graph.edgePositions (graph.position left) (graph.position right) ↔
      Mutual graph.edges left right :=
  and_congr (wellFormed.reaches_position_iff ofLeft ofRight)
    (wellFormed.reaches_position_iff ofRight ofLeft)

end WellFormed

/-! ## Members -/

/-- The classes of mutually reachable positions. -/
def classes (graph : ContractGraph) : List (List Nat) :=
  Reachability.classes graph.nodes.length graph.edgePositions

/-- The members at some positions are the addresses that stand there, in the order of the texts. -/
theorem membersAt_eq (positions : List Nat) :
    graph.membersAt positions =
      (positions.filterMap fun position => graph.addresses[position]?).mergeSort := by
  simp only [membersAt, addresses, List.getElem?_map]

/-- Putting them in order changes nothing but the order. -/
theorem membersAt_perm (positions : List Nat) :
    (graph.membersAt positions).Perm
      (positions.filterMap fun position => graph.addresses[position]?) := by
  rw [membersAt_eq]
  exact List.mergeSort_perm ..

/-- The members are in order. -/
theorem pairwise_membersAt (positions : List Nat) :
    (graph.membersAt positions).Pairwise (· ≤ ·) :=
  List.pairwise_mergeSort' _ _

/-- The addresses at all positions are all addresses. -/
theorem filterMap_range_addresses :
    ((List.range graph.nodes.length).filterMap fun position => graph.addresses[position]?) =
      graph.addresses := by
  have listed : ((List.range graph.addresses.length).map fun position =>
      graph.addresses[position]?) = graph.addresses.map some :=
    List.ext_getElem (by simp) (by simp)
  rw [← length_addresses]
  simpa [List.filterMap_map, Function.comp_def] using congrArg (List.filterMap id) listed

namespace WellFormed

/-- Every position is in exactly one class. -/
theorem flatten_classes_perm (wellFormed : graph.WellFormed) :
    graph.classes.flatten.Perm (List.range graph.nodes.length) :=
  Reachability.flatten_classes_perm wellFormed.target_lt

/-- The members at some positions are the addresses that have one of them. -/
theorem mem_membersAt (wellFormed : graph.WellFormed) {positions : List Nat} {id : String} :
    id ∈ graph.membersAt positions ↔ id ∈ graph.addresses ∧ graph.position id ∈ positions := by
  rw [(membersAt_perm positions).mem_iff, List.mem_filterMap]
  constructor
  · rintro ⟨position, member, found⟩
    obtain rfl := wellFormed.position_eq found
    exact ⟨List.mem_of_getElem? found, member⟩
  · rintro ⟨member, isAmong⟩
    exact ⟨_, isAmong, getElem?_position member⟩

/-- Every address is a member at one class. -/
theorem flatMap_membersAt_perm (wellFormed : graph.WellFormed) :
    (graph.classes.flatMap graph.membersAt).Perm graph.addresses := by
  calc graph.classes.flatMap graph.membersAt
    _ ~ graph.classes.flatMap (List.filterMap fun position => graph.addresses[position]?) :=
      List.Perm.flatMap_left _ fun positions _ => membersAt_perm positions
    _ = graph.classes.flatten.filterMap fun position => graph.addresses[position]? := by
      rw [List.filterMap_flatten, List.flatMap_def]
    _ ~ (List.range graph.nodes.length).filterMap fun position => graph.addresses[position]? :=
      wellFormed.flatten_classes_perm.filterMap _
    _ = graph.addresses := filterMap_range_addresses

/-- Two nodes are members at one class exactly if each reaches the other. -/
theorem exists_mem_membersAt_iff (wellFormed : graph.WellFormed) {left right : String}
    (ofLeft : left ∈ graph.addresses) (ofRight : right ∈ graph.addresses) :
    (∃ positions ∈ graph.classes,
      left ∈ graph.membersAt positions ∧ right ∈ graph.membersAt positions) ↔
      Mutual graph.edges left right := by
  rw [← wellFormed.mutual_position_iff ofLeft ofRight,
    ← Reachability.exists_mem_classes_iff wellFormed.target_lt (position_lt_iff.mpr ofLeft)
      (position_lt_iff.mpr ofRight)]
  simp [classes, wellFormed.mem_membersAt, ofLeft, ofRight]

/-- Every position of a class has a node. -/
theorem length_membersAt (wellFormed : graph.WellFormed) {positions : List Nat}
    (isClass : positions ∈ graph.classes) :
    (graph.membersAt positions).length = positions.length := by
  have inside : ∀ position ∈ positions, position < graph.addresses.length := by
    intro position member
    rw [length_addresses, ← List.mem_range, ← wellFormed.flatten_classes_perm.mem_iff]
    exact List.mem_flatten.mpr ⟨positions, isClass, member⟩
  rw [(membersAt_perm positions).length_eq, List.length_filterMap_eq_countP,
    List.countP_eq_length]
  simpa using inside

/-- No class is empty. -/
theorem ne_nil_of_mem_classes (wellFormed : graph.WellFormed) {positions : List Nat}
    (isClass : positions ∈ graph.classes) : positions ≠ [] := by
  obtain ⟨place, inside, rfl⟩ := (Reachability.mem_classes wellFormed.target_lt).mp isClass
  exact List.ne_nil_of_mem
    ((Reachability.mem_classOf wellFormed.target_lt inside).mpr ⟨inside, .rfl⟩)

/-- The edges within a class of positions are those between two different members, each once. -/
theorem edgesWithin_eq (wellFormed : graph.WellFormed) (positions : List Nat) :
    edgesWithin graph.edgePositions positions =
      (graph.edges.toFinset.filter fun edge => edge.1 ≠ edge.2 ∧
        edge.1 ∈ graph.membersAt positions ∧ edge.2 ∈ graph.membersAt positions).card := by
  rw [edgesWithin, edgePositions_eq, List.countP_map]
  have count_eq : (graph.edges.filter fun edge => edge.1 ≠ edge.2 ∧
        edge.1 ∈ graph.membersAt positions ∧ edge.2 ∈ graph.membersAt positions).length =
      (graph.edges.toFinset.filter fun edge => edge.1 ≠ edge.2 ∧
        edge.1 ∈ graph.membersAt positions ∧ edge.2 ∈ graph.membersAt positions).card := by
    rw [← List.toFinset_card_of_nodup (wellFormed.nodup_edges.filter _), List.toFinset_filter]
    simp
  rw [← count_eq, ← List.countP_eq_length_filter]
  refine List.countP_congr fun edge member => ?_
  have source := wellFormed.source_mem edge member
  have target := wellFormed.target_mem edge member
  have same_iff : graph.position edge.1 = graph.position edge.2 ↔ edge.1 = edge.2 :=
    List.idxOf_inj source
  simp [wellFormed.mem_membersAt, source, target, same_iff]

end WellFormed

/-! ## Components -/

/-- What it means that components are the classes of mutually reachable nodes of a graph. -/
structure ReportsClasses {α : Type} (graph : ContractGraph) (components : List (Component α)) :
    Prop where
  /-- The members are the addresses of the nodes. -/
  members_perm : (components.flatMap Component.members).Perm graph.addresses
  /-- No node is in two components. -/
  exactly_one : ∀ id ∈ graph.addresses,
    (components.filter fun component => id ∈ component.members).length = 1
  shared_iff : ∀ left ∈ graph.addresses, ∀ right ∈ graph.addresses,
    (∃ component ∈ components, left ∈ component.members ∧ right ∈ component.members) ↔
      ReflTransGen (Edge graph.edges) left right ∧ ReflTransGen (Edge graph.edges) right left
  members_ne_nil : ∀ component ∈ components, component.members ≠ []
  members_sorted : ∀ component ∈ components, component.members.Pairwise (· < ·)
  size_eq : ∀ component ∈ components, component.size = component.members.length
  /-- The edges between two different members are counted, each once. -/
  internalEdges_eq : ∀ component ∈ components, component.internalEdges =
    (graph.edges.toFinset.filter fun edge =>
      edge.1 ≠ edge.2 ∧ edge.1 ∈ component.members ∧ edge.2 ∈ component.members).card
  sorted : components.Pairwise fun left right =>
    right.size < left.size ∨ left.size = right.size ∧ left.members < right.members

section

variable {α : Type}

/-- Larger components come first, and those of one size in the order of their members. -/
theorem componentPrecedes_iff {left right : Component α} :
    componentPrecedes left right = true ↔
      right.size < left.size ∨ left.size = right.size ∧ left.members ≤ right.members := by
  simp only [componentPrecedes, Bool.or_eq_true, Bool.and_eq_true, decide_eq_true_eq,
    Bool.not_eq_true', ← Bool.not_eq_true, List.lex_eq_true_iff_lt, not_lt]

/-- Of two components one comes first. -/
theorem componentPrecedes_total (left right : Component α) :
    (componentPrecedes left right || componentPrecedes right left) = true := by
  rw [Bool.or_eq_true, componentPrecedes_iff, componentPrecedes_iff]
  obtain less | same | more := Nat.lt_trichotomy left.size right.size
  · exact .inr (.inl less)
  · exact (le_total left.members right.members).imp (fun le => .inr ⟨same, le⟩)
      fun le => .inr ⟨same.symm, le⟩
  · exact .inl (.inl more)

/-- The order of the components is transitive. -/
theorem componentPrecedes_trans (first second third : Component α)
    (before : componentPrecedes first second = true)
    (after : componentPrecedes second third = true) : componentPrecedes first third = true := by
  rw [componentPrecedes_iff] at before after ⊢
  obtain larger | ⟨same, le⟩ := before
  · exact .inl (by omega)
  · obtain larger | ⟨sameAgain, leAgain⟩ := after
    · exact .inl (by omega)
    · exact .inr ⟨same.trans sameAgain, le.trans leAgain⟩

/-- Components with disjoint members that are not empty never tie, so their order is strict. -/
theorem pairwise_strict {components : List (Component α)}
    (ordered : components.Pairwise fun left right => componentPrecedes left right = true)
    (disjoint : components.Pairwise (Function.onFun List.Disjoint Component.members))
    (inhabited : ∀ component ∈ components, component.members ≠ []) :
    components.Pairwise fun left right =>
      right.size < left.size ∨ left.size = right.size ∧ left.members < right.members := by
  refine (ordered.and disjoint).imp_of_mem fun {left right} ofLeft _ ⟨precedes, apart⟩ => ?_
  obtain larger | ⟨same, le⟩ := componentPrecedes_iff.mp precedes
  · exact .inl larger
  · refine .inr ⟨same, lt_of_le_of_ne le fun equal => ?_⟩
    obtain ⟨id, member⟩ := List.exists_mem_of_ne_nil _ (inhabited left ofLeft)
    exact apart member (equal ▸ member)

/-- An address that is a member of one of several disjoint components is a member of only one. -/
theorem length_filter_mem_eq_one {components : List (Component α)}
    (disjoint : components.Pairwise (Function.onFun List.Disjoint Component.members))
    {id : String} (member : id ∈ components.flatMap Component.members) :
    (components.filter fun component => id ∈ component.members).length = 1 := by
  obtain ⟨component, isComponent, ofIt⟩ := List.mem_flatMap.mp member
  obtain ⟨before, after, rfl⟩ := List.append_of_mem isComponent
  obtain ⟨_, disjointAfter, apart⟩ := List.pairwise_append.mp disjoint
  have noneBefore : ∀ other ∈ before, id ∉ other.members :=
    fun other earlier ofOther => apart other earlier component (List.mem_cons_self ..) ofOther ofIt
  have noneAfter : ∀ other ∈ after, id ∉ other.members :=
    fun other later ofOther => (List.pairwise_cons.mp disjointAfter).1 other later ofIt ofOther
  rw [List.filter_append, List.filter_cons_of_pos (by simpa using ofIt),
    List.filter_eq_nil_iff.mpr (by simpa using noneBefore),
    List.filter_eq_nil_iff.mpr (by simpa using noneAfter)]
  rfl

variable [Scalar α]

/-- The density of a component with some number of members and of edges between them. -/
def densityOf (size internalEdges : Nat) : α :=
  if 1 < size then Scalar.ofNat internalEdges / Scalar.ofNat (size * (size - 1))
  else Scalar.ofNat 0

namespace WellFormed

/-- There is one component for every class. -/
theorem components_perm (wellFormed : graph.WellFormed) :
    (graph.components : List (Component α)).Perm (graph.classes.map fun positions =>
      graph.component positions (edgesWithin graph.edgePositions positions)) := by
  have counts := internalEdges_eq wellFormed.flatten_classes_perm wellFormed.positions_lt
  refine (List.mergeSort_perm ..).trans ?_
  rw [show Reachability.classes graph.nodes.length graph.edgePositions = graph.classes from rfl,
    counts, List.zipWith_map_right, List.zipWith_self]

/-- The components are those of the classes. -/
theorem mem_components (wellFormed : graph.WellFormed) {component : Component α} :
    component ∈ graph.components ↔ ∃ positions ∈ graph.classes,
      graph.component positions (edgesWithin graph.edgePositions positions) = component := by
  rw [wellFormed.components_perm.mem_iff, List.mem_map]

/-- The density that is reported is that of the size and the internal edges. -/
theorem density_eq (wellFormed : graph.WellFormed) :
    ∀ component ∈ (graph.components : List (Component α)),
      component.density = densityOf component.size component.internalEdges := by
  intro component isComponent
  obtain ⟨positions, _, rfl⟩ := wellFormed.mem_components.mp isComponent
  rfl

/-- The components of a well-formed graph are the classes of its mutually reachable nodes. -/
theorem reportsClasses (wellFormed : graph.WellFormed) :
    graph.ReportsClasses (graph.components : List (Component α)) := by
  have members_perm : ((graph.components : List (Component α)).flatMap Component.members).Perm
      graph.addresses := by
    refine (wellFormed.components_perm.flatMap_right Component.members).trans ?_
    rw [List.flatMap_map]
    exact wellFormed.flatMap_membersAt_perm
  obtain ⟨distinct, disjoint⟩ :=
    List.nodup_flatMap.mp (members_perm.nodup_iff.mpr wellFormed.nodup_addresses)
  have size_eq : ∀ component ∈ (graph.components : List (Component α)),
      component.size = component.members.length := by
    intro component isComponent
    obtain ⟨positions, isClass, rfl⟩ := wellFormed.mem_components.mp isComponent
    exact (wellFormed.length_membersAt isClass).symm
  have inhabited : ∀ component ∈ (graph.components : List (Component α)),
      component.members ≠ [] := by
    intro component isComponent
    obtain ⟨positions, isClass, rfl⟩ := wellFormed.mem_components.mp isComponent
    rw [← List.length_pos_iff, ← size_eq _ isComponent]
    exact List.length_pos_iff.mpr (wellFormed.ne_nil_of_mem_classes isClass)
  refine ⟨members_perm, ?_, ?_, inhabited, ?_, size_eq, ?_, ?_⟩
  · intro id member
    exact length_filter_mem_eq_one disjoint (members_perm.mem_iff.mpr member)
  · intro left ofLeft right ofRight
    have shared := wellFormed.exists_mem_membersAt_iff ofLeft ofRight
    simpa [wellFormed.mem_components, component, Mutual, AntisymmRel] using shared
  · intro component isComponent
    have different := List.nodup_iff_pairwise_ne.mp (distinct component isComponent)
    obtain ⟨positions, _, rfl⟩ := wellFormed.mem_components.mp isComponent
    exact ((pairwise_membersAt positions).and different).imp
      fun ⟨le, ne⟩ => lt_of_le_of_ne le ne
  · intro component isComponent
    obtain ⟨positions, _, rfl⟩ := wellFormed.mem_components.mp isComponent
    exact wellFormed.edgesWithin_eq positions
  · exact pairwise_strict
      (List.pairwise_mergeSort componentPrecedes_trans componentPrecedes_total _) disjoint inhabited

end WellFormed

end

/-! ## What follows from the classes -/

/-- A node that reaches another one has an edge, so it is a node of the graph. -/
theorem WellFormed.mem_of_reaches (wellFormed : graph.WellFormed) {left right : String}
    (leads : ReflTransGen (Edge graph.edges) left right) (different : left ≠ right) :
    left ∈ graph.addresses := by
  obtain same | ⟨_, edge, _⟩ := leads.cases_head
  · exact absurd same different
  · exact wellFormed.source_mem _ edge

namespace ReportsClasses

variable {α : Type} {components : List (Component α)}

/-- Two components with a common member are one. -/
theorem eq_of_common (reports : graph.ReportsClasses components) {id : String}
    (isNode : id ∈ graph.addresses) {first second : Component α} (isFirst : first ∈ components)
    (isSecond : second ∈ components) (ofFirst : id ∈ first.members)
    (ofSecond : id ∈ second.members) : first = second := by
  obtain ⟨only, filter_eq⟩ := List.length_eq_one_iff.mp (reports.exactly_one id isNode)
  have isOnly {component : Component α} (isComponent : component ∈ components)
      (ofIt : id ∈ component.members) : component = only := by
    rw [← List.mem_singleton, ← filter_eq]
    simpa using ⟨isComponent, ofIt⟩
  rw [isOnly isFirst ofFirst, isOnly isSecond ofSecond]

/-- The members of a component are nodes of the graph. -/
theorem mem_addresses (reports : graph.ReportsClasses components) {component : Component α}
    (isComponent : component ∈ components) {id : String} (member : id ∈ component.members) :
    id ∈ graph.addresses :=
  reports.members_perm.mem_iff.mp (List.mem_flatMap.mpr ⟨component, isComponent, member⟩)

/-- The members of a component are the nodes that one of them and that reach that one. -/
theorem mem_members_iff (reports : graph.ReportsClasses components) {component : Component α}
    (isComponent : component ∈ components) {id other : String} (member : id ∈ component.members) :
    other ∈ component.members ↔ other ∈ graph.addresses ∧ Mutual graph.edges id other := by
  have isNode := reports.mem_addresses isComponent member
  constructor
  · intro otherMember
    have isOther := reports.mem_addresses isComponent otherMember
    exact ⟨isOther, (reports.shared_iff id isNode other isOther).mp
      ⟨component, isComponent, member, otherMember⟩⟩
  · rintro ⟨isOther, mutually⟩
    obtain ⟨shared, isShared, ofId, ofOther⟩ :=
      (reports.shared_iff id isNode other isOther).mpr mutually
    rwa [reports.eq_of_common isNode isComponent isShared member ofId]

/-- The sizes of the components add up to the number of nodes. -/
theorem sum_sizes (reports : graph.ReportsClasses components) :
    (components.map Component.size).sum = graph.nodes.length := by
  rw [← length_addresses, ← reports.members_perm.length_eq, List.length_flatMap]
  exact congrArg List.sum (List.map_congr_left reports.size_eq)

/-- A component has several members exactly if different nodes reach each other. -/
theorem exists_several_iff (reports : graph.ReportsClasses components)
    (wellFormed : graph.WellFormed) :
    (∃ component ∈ components, 1 < component.size) ↔
      ∃ left right, left ≠ right ∧ Mutual graph.edges left right := by
  constructor
  · rintro ⟨component, isComponent, several⟩
    have isNode : ∀ id ∈ component.members, id ∈ graph.addresses :=
      fun _ => reports.mem_addresses isComponent
    have sorted := reports.members_sorted component isComponent
    rw [reports.size_eq component isComponent] at several
    rcases members_eq : component.members with _ | ⟨left, _ | ⟨right, others⟩⟩
    · simp [members_eq] at several
    · simp [members_eq] at several
    · have ofLeft : left ∈ component.members := by simp [members_eq]
      have ofRight : right ∈ component.members := by simp [members_eq]
      rw [members_eq] at sorted
      have less := List.rel_of_pairwise_cons sorted (List.mem_cons_self ..)
      exact ⟨left, right, less.ne, (reports.shared_iff left (isNode left ofLeft) right
        (isNode right ofRight)).mp ⟨component, isComponent, ofLeft, ofRight⟩⟩
  · rintro ⟨left, right, different, mutually⟩
    obtain ⟨component, isComponent, ofLeft, ofRight⟩ := (reports.shared_iff
      left (wellFormed.mem_of_reaches mutually.1 different)
      right (wellFormed.mem_of_reaches mutually.2 different.symm)).mpr mutually
    refine ⟨component, isComponent, ?_⟩
    rw [reports.size_eq component isComponent]
    rcases members_eq : component.members with _ | ⟨only, _ | ⟨other, others⟩⟩
    · simp [members_eq] at ofLeft
    · rw [members_eq, List.mem_singleton] at ofLeft ofRight
      exact absurd (ofLeft.trans ofRight.symm) different
    · simp

end ReportsClasses

/-- The components that an analysis reports are exactly the classes of mutual reachability of the
graph that it looks at, whatever was done to build it: `ReportsClasses`. Their sizes add up to the
number of nodes, and some component has several members exactly if a cycle runs through different
contracts. -/
theorem components_are_classes_of_mutual_reachability {α : Type} [Scalar α] (built : graph.Built)
    (options : AnalysisOptions α) :
    let analyzed := if options.excludeZero then graph.withoutZero else graph
    let statistics := graph.analyze options
    analyzed.ReportsClasses statistics.components ∧
      statistics.componentSizes = statistics.components.map Component.size ∧
      statistics.nodeCount = analyzed.nodes.length ∧
      statistics.componentSizes.sum = statistics.nodeCount ∧
      (statistics.cycles ≠ [] ↔ ∃ cycle : Cycle String,
        cycle.Nodup ∧ cycle.Nontrivial ∧ cycle.Chain (Edge analyzed.edges)) := by
  intro analyzed statistics
  have wellFormed : analyzed.WellFormed := built.wellFormed_analyzed options.excludeZero
  have reports : analyzed.ReportsClasses statistics.components := wellFormed.reportsClasses
  refine ⟨reports, rfl, rfl, reports.sum_sizes, ?_⟩
  rw [← Reachability.exists_mutual_iff_exists_cycle, ← reports.exists_several_iff wellFormed]
  simp [GraphStatistics.cycles, List.filter_eq_nil_iff]

/-- Two contracts that call each other, one of which calls itself too. -/
def twoCallers : ContractGraph :=
  let nodes := (({} : ContractGraph).addReferencedNode "a" "").addReferencedNode "b" ""
  ((nodes.addEdge "a" "b").addEdge "b" "a").addEdge "b" "b"

/-- The graph of the two callers is assembled like any other. -/
theorem built_twoCallers : twoCallers.Built := by
  refine .addEdge (.addEdge (.addEdge (.addReferencedNode (.addReferencedNode .empty _ _) _ _)
    ?_ ?_) ?_ ?_) ?_ ?_ <;> simp [contains_iff, mem_withAddress]

/-- Both contracts are in one component, through which a cycle runs. -/
theorem components_of_twoCallers :
    let statistics := twoCallers.analyze (AnalysisOptions.standard : AnalysisOptions Float)
    twoCallers.Built ∧ twoCallers.ReportsClasses statistics.components ∧
      statistics.componentSizes.sum = 2 ∧ statistics.cycles ≠ [] := by
  intro statistics
  obtain ⟨reports, _, count, sum, several⟩ := components_are_classes_of_mutual_reachability
    built_twoCallers (AnalysisOptions.standard : AnalysisOptions Float)
  have edges_eq : twoCallers.edges = [("a", "b"), ("b", "a"), ("b", "b")] := by decide
  refine ⟨built_twoCallers, reports, (sum.trans count).trans (by decide),
    several.mpr ⟨(["a", "b"] : List String), ?_, ⟨"a", "b", by decide, by simp, by simp⟩, ?_⟩⟩
  · simp [Cycle.nodup_coe_iff]
  · change Cycle.Chain (Edge twoCallers.edges) _
    simp [Cycle.chain_coe_cons, Edge, edges_eq]

end ContractGraph

end ContractAtlas

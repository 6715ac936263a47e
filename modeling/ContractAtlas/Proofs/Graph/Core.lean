import ContractAtlas.Proofs.Graph.OrderIndependence
import ContractAtlas.Proofs.Graph.Percentile

/-!
# Core and periphery

The core of a graph is its nodes whose centrality is above a percentile of all of them. No more
nodes are above a percentile than are ranked above it, however many have the same centrality, and
the node at its own rank is not: the core is bounded by the percentile, and some node is left for
the periphery (`core_is_bounded_by_percentile`). -/

namespace ContractAtlas

namespace ContractGraph

/-- Statistics that split the nodes of a graph in two, by their roles and in their order. -/
structure SplitsNodes {α : Type} [Scalar α] (graph : ContractGraph)
    (statistics : GraphStatistics α) : Prop where
  centrality_addresses : statistics.centrality.map NodeCentrality.address = graph.addresses
  core_sublist : statistics.core.Sublist graph.addresses
  periphery_sublist : statistics.periphery.Sublist graph.addresses
  /-- Every node is on one side. -/
  sides_perm : (statistics.core ++ statistics.periphery).Perm graph.addresses
  sides_disjoint : statistics.core.Disjoint statistics.periphery
  mem_core_iff : ∀ node ∈ statistics.centrality,
    node.address ∈ statistics.core ↔ node.role = .core
  mem_periphery_iff : ∀ node ∈ statistics.centrality,
    node.address ∈ statistics.periphery ↔ node.role = .periphery
  role_eq_core_iff : ∀ node ∈ statistics.centrality,
    node.role = .core ↔ Scalar.less statistics.centralityThreshold node.degree = true

section

variable {α : Type} [Scalar α] {graph : ContractGraph}

/-- The core are the nodes above the threshold. -/
theorem roleAt_eq_core_iff {threshold : α} {id : String} :
    graph.roleAt threshold id = .core ↔ Scalar.less threshold (graph.degree id) = true := by
  simp [roleAt]

/-- All others are the periphery. -/
theorem roleAt_eq_periphery_iff {threshold : α} {id : String} :
    graph.roleAt threshold id = .periphery ↔ graph.roleAt threshold id ≠ .core := by
  simp [roleAt]

/-- The threshold that is reported is the percentile of the degrees that are reported. -/
theorem centralityThreshold_eq (percent : α) :
    (graph.statistics percent).centralityThreshold =
      percentile ((graph.statistics percent).centrality.map NodeCentrality.degree) percent := by
  simp only [statistics, List.map_map]
  rfl

/-- The core lists its nodes in the order of the graph. -/
theorem core_eq (percent : α) : (graph.statistics percent).core =
    graph.addresses.filter fun id => graph.roleAt (graph.coreThreshold percent) id = .core :=
  addresses_filter_role _ .core

/-- So does the periphery. -/
theorem periphery_eq (percent : α) : (graph.statistics percent).periphery =
    graph.addresses.filter fun id => graph.roleAt (graph.coreThreshold percent) id = .periphery :=
  addresses_filter_role _ .periphery

/-- Every node is listed once, in the core or in the periphery. -/
theorem splitsNodes (graph : ContractGraph) (percent : α) :
    graph.SplitsNodes (graph.statistics percent) := by
  have of_centrality {node : NodeCentrality α}
      (isNode : node ∈ (graph.statistics percent).centrality) :
      node.address ∈ graph.addresses ∧ node.degree = graph.degree node.address ∧
        node.role = graph.roleAt (graph.coreThreshold percent) node.address := by
    obtain ⟨described, member, rfl⟩ := List.mem_map.mp isNode
    exact ⟨List.mem_map_of_mem member, rfl, rfl⟩
  constructor
  case centrality_addresses => exact List.map_map
  case core_sublist => exact core_eq percent ▸ List.filter_sublist
  case periphery_sublist => exact periphery_eq percent ▸ List.filter_sublist
  case sides_perm =>
    have others : (graph.statistics percent).periphery = graph.addresses.filter fun id =>
        !decide (graph.roleAt (graph.coreThreshold percent) id = .core) := by
      simp [periphery_eq, roleAt_eq_periphery_iff]
    rw [core_eq, others]
    exact List.filter_append_perm _ graph.addresses
  case sides_disjoint =>
    intro id ofCore ofPeriphery
    rw [core_eq, List.mem_filter, decide_eq_true_iff] at ofCore
    rw [periphery_eq, List.mem_filter, decide_eq_true_iff] at ofPeriphery
    exact roleAt_eq_periphery_iff.mp ofPeriphery.2 ofCore.2
  case mem_core_iff =>
    intro node isNode
    obtain ⟨member, _, role_eq⟩ := of_centrality isNode
    rw [core_eq, List.mem_filter, role_eq, decide_eq_true_iff, and_iff_right member]
  case mem_periphery_iff =>
    intro node isNode
    obtain ⟨member, _, role_eq⟩ := of_centrality isNode
    rw [periphery_eq, List.mem_filter, role_eq, decide_eq_true_iff, and_iff_right member]
  case role_eq_core_iff =>
    intro node isNode
    obtain ⟨_, degree_eq, role_eq⟩ := of_centrality isNode
    rw [role_eq, degree_eq]
    exact roleAt_eq_core_iff

end

/-! ## The size of the core in exact arithmetic -/

section

variable {graph : ContractGraph}

/-- There are as many nodes in the core as degrees above the threshold. -/
theorem length_core (percent : ℚ) : (graph.statistics percent).core.length =
    ((graph.addresses.map graph.degree).filter (graph.coreThreshold percent < ·)).length := by
  have above (id : String) : decide (graph.roleAt (graph.coreThreshold percent) id = .core) =
      decide (graph.coreThreshold percent < graph.degree id) := by
    rw [decide_eq_decide, roleAt_eq_core_iff]
    exact decide_eq_true_iff
  simp only [core_eq, above, List.filter_map, List.length_map, Function.comp_def]

/-- The core has at most the nodes that are ranked above the percentile. -/
theorem length_core_le (nonempty : graph.nodes ≠ []) (percent : ℚ) :
    (graph.statistics percent).core.length ≤
      graph.nodes.length - (⌊percentileRank graph.nodes.length percent⌋₊ + 1) := by
  have degrees : graph.addresses.map (graph.degree : String → ℚ) ≠ [] := by
    simpa [addresses] using nonempty
  have bound := length_filter_percentile_lt_le degrees percent
  rw [List.length_map, length_addresses] at bound
  rwa [length_core, coreThreshold_eq]

end

/-- What a percentile is in exact arithmetic, and how it bounds the core of a graph. The percentile
of some numbers lies between the least and the greatest, does not depend on their order, grows with
the percentage, and is the number at a rank if it is read there. Whatever the graph and the
percentage, the nodes that an analysis looks at are split by their roles (`SplitsNodes`), no more of
them are in the core than are ranked above the percentile, and so there is a periphery if there are
nodes. -/
theorem core_is_bounded_by_percentile :
    (∀ numbers : List ℚ, numbers ≠ [] →
      (∀ percent, ∃ least greatest, IsLeast {number | number ∈ numbers} least ∧
        IsGreatest {number | number ∈ numbers} greatest ∧
        least ≤ percentile numbers percent ∧ percentile numbers percent ≤ greatest) ∧
      (∀ others : List ℚ, others.Perm numbers → percentile others = percentile numbers) ∧
      Monotone (percentile numbers) ∧
      ∀ (percent : ℚ) (rank : ℕ), percentileRank numbers.length percent = rank →
        HasRank numbers rank (percentile numbers percent)) ∧
    ∀ (graph : ContractGraph) (options : AnalysisOptions ℚ),
      let analyzed := if options.excludeZero then graph.withoutZero else graph
      let statistics := graph.analyze options
      1 ≤ analyzed.nodes.length →
        analyzed.SplitsNodes statistics ∧
        statistics.centralityThreshold =
          percentile (statistics.centrality.map NodeCentrality.degree) options.corePercentile ∧
        (statistics.core.length : ℤ) ≤ analyzed.nodes.length - 1 -
          ⌊percentileRank analyzed.nodes.length options.corePercentile⌋ ∧
        statistics.periphery ≠ [] := by
  constructor
  · intro numbers nonempty
    refine ⟨fun percent => ?_, fun others perm => funext (percentile_eq_of_perm perm),
      percentile_mono nonempty, fun percent rank => hasRank_percentile nonempty⟩
    have inhabited : numbers.toFinset.Nonempty := (List.toFinset_nonempty_iff numbers).mpr nonempty
    have isLeast := numbers.toFinset.isLeast_min' inhabited
    have isGreatest := numbers.toFinset.isGreatest_max' inhabited
    rw [List.coe_toFinset] at isLeast isGreatest
    exact ⟨_, _, isLeast, isGreatest, percentile_mem_Icc nonempty isLeast isGreatest percent⟩
  · intro graph options analyzed statistics positive
    have split : analyzed.SplitsNodes statistics := analyzed.splitsNodes options.corePercentile
    have bound : statistics.core.length ≤ analyzed.nodes.length -
        (⌊percentileRank analyzed.nodes.length options.corePercentile⌋₊ + 1) :=
      length_core_le (List.length_pos_iff.mp positive) options.corePercentile
    have inside := floor_percentileRank_lt positive options.corePercentile
    have floor_eq := Int.natCast_floor_eq_floor
      (percentileRank_nonneg positive options.corePercentile)
    refine ⟨split, centralityThreshold_eq options.corePercentile, by omega, ?_⟩
    intro empty
    have all := split.sides_perm.length_eq
    rw [empty, List.append_nil, length_addresses] at all
    omega

/-- The percentile at fifty of three numbers is the second of them. Where two contracts call each
other, one of which calls itself too, none is above a percentile beyond a hundred. -/
theorem core_is_bounded_by_percentile_twoCallers :
    let numbers : List ℚ := [3, 1, 2]
    let statistics := twoCallers.analyze ⟨true, (250 : ℚ)⟩
    numbers ≠ [] ∧ percentileRank numbers.length 50 = (1 : ℕ) ∧
      HasRank numbers 1 (percentile numbers 50) ∧
      twoCallers.withoutZero.nodes.length = 2 ∧
      statistics.core = [] ∧ statistics.periphery ≠ [] := by
  intro numbers statistics
  obtain ⟨percentiles, cores⟩ := core_is_bounded_by_percentile
  have nonempty : numbers ≠ [] := by simp [numbers]
  have rank_eq : percentileRank numbers.length 50 = (1 : ℕ) := by
    norm_num [percentileRank, numbers]
  have count : twoCallers.withoutZero.nodes.length = 2 := by decide
  obtain ⟨_, _, bound, inhabited⟩ := cores twoCallers ⟨true, 250⟩ (by simp [count])
  have last : percentileRank 2 250 = (1 : ℤ) := by norm_num [percentileRank]
  change (statistics.core.length : ℤ) ≤ twoCallers.withoutZero.nodes.length - 1 -
    ⌊percentileRank twoCallers.withoutZero.nodes.length 250⌋ at bound
  rw [count, last, Int.floor_intCast] at bound
  refine ⟨nonempty, rank_eq, (percentiles numbers nonempty).2.2.2 50 1 rank_eq, count, ?_,
    inhabited⟩
  exact List.eq_nil_of_length_eq_zero (by omega)

end ContractGraph

end ContractAtlas

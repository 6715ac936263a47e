import ContractAtlas.Proofs.Graph.Components
import ContractAtlas.Proofs.Graph.Rational

/-!
# Densities

A member of a component that has others reaches them and is reached from them, so it has an edge to
another member: there are at least as many edges inside as members. There are at most as many as
pairs of different members, since no edge is there twice and an edge from a node to itself does not
count. So the density of a component is a share, and the strength of all components is bounded by
the number of nodes (`densities_are_shares`). -/

namespace ContractAtlas

open Reachability (Edge Mutual)
open Relation (ReflTransGen)

/-- The way to another vertex leaves the first one by an edge to a vertex that is not the same. -/
theorem Reachability.exists_edge_of_reaches {Vertex : Type} {edges : List (Vertex × Vertex)}
    {left right : Vertex} (leads : ReflTransGen (Edge edges) left right)
    (different : left ≠ right) :
    ∃ next, left ≠ next ∧ Edge edges left next ∧ ReflTransGen (Edge edges) next right := by
  induction leads using ReflTransGen.head_induction_on with
  | refl => exact absurd rfl different
  | @head source next edge onward inductionHypothesis =>
      by_cases stays : source = next
      · subst stays
        exact inductionHypothesis different
      · exact ⟨next, stays, edge, onward⟩

namespace ContractGraph

variable {graph : ContractGraph}

/-! ## The edges inside a component -/

namespace ReportsClasses

variable {α : Type} {components : List (Component α)} {component : Component α}

/-- No member of a component is listed twice. -/
theorem nodup_members (reports : graph.ReportsClasses components)
    (isComponent : component ∈ components) : component.members.Nodup :=
  (reports.members_sorted component isComponent).imp fun less => less.ne

/-- The size of a component is the number of its members. -/
theorem card_members (reports : graph.ReportsClasses components)
    (isComponent : component ∈ components) :
    component.members.toFinset.card = component.size := by
  rw [List.toFinset_card_of_nodup (reports.nodup_members isComponent),
    reports.size_eq component isComponent]

/-- Where a component has several members, each of them has an edge to another one. -/
theorem exists_edge_inside (reports : graph.ReportsClasses components)
    (wellFormed : graph.WellFormed) (isComponent : component ∈ components)
    (several : 1 < component.size) {id : String} (member : id ∈ component.members) :
    ∃ next ∈ component.members, id ≠ next ∧ (id, next) ∈ graph.edges := by
  rw [← reports.card_members isComponent] at several
  obtain ⟨other, isOther, different⟩ := Finset.exists_mem_ne several id
  have mutually := ((reports.mem_members_iff isComponent member).mp
    (List.mem_toFinset.mp isOther)).2
  obtain ⟨next, apart, edge, onward⟩ :=
    Reachability.exists_edge_of_reaches mutually.1 different.symm
  have nextMember := (reports.mem_members_iff isComponent member).mpr
    ⟨wellFormed.target_mem _ edge, .single edge, onward.trans mutually.2⟩
  exact ⟨next, nextMember, apart, edge⟩

/-- Every member of a component with several has an edge to another member on the way there, so
there are at least as many internal edges as members. -/
theorem size_le_internalEdges (reports : graph.ReportsClasses components)
    (wellFormed : graph.WellFormed) (isComponent : component ∈ components)
    (several : 1 < component.size) : component.size ≤ component.internalEdges := by
  rw [← reports.card_members isComponent, reports.internalEdges_eq component isComponent]
  -- Every member is the source of an edge that is counted.
  refine Finset.card_le_card_of_surjOn Prod.fst fun id member => ?_
  have member := List.mem_toFinset.mp (Finset.mem_coe.mp member)
  obtain ⟨next, nextMember, apart, edge⟩ :=
    reports.exists_edge_inside wellFormed isComponent several member
  exact ⟨(id, next), by simpa using ⟨edge, apart, member, nextMember⟩, rfl⟩

/-- There are no more internal edges than ordered pairs of different members. -/
theorem internalEdges_le (reports : graph.ReportsClasses components)
    (isComponent : component ∈ components) :
    component.internalEdges ≤ component.size * (component.size - 1) := by
  have pairs : (graph.edges.toFinset.filter fun edge => edge.1 ≠ edge.2 ∧
      edge.1 ∈ component.members ∧ edge.2 ∈ component.members) ⊆
        component.members.toFinset.offDiag := by
    intro edge inside
    obtain ⟨_, apart, source, target⟩ := Finset.mem_filter.mp inside
    simpa using ⟨source, target, apart⟩
  calc component.internalEdges
    _ ≤ component.members.toFinset.offDiag.card := by
      rw [reports.internalEdges_eq component isComponent]
      exact Finset.card_le_card pairs
    _ = component.size * (component.size - 1) := by
      rw [Finset.offDiag_card, reports.card_members isComponent, Nat.mul_sub_one]

end ReportsClasses

/-- Sets without a common member have no edge inside in common. -/
theorem sum_card_inside_le (edges : Finset (String × String)) {parts : List (List String)}
    (disjoint : parts.Pairwise List.Disjoint) :
    (parts.map fun members => (edges.filter fun edge => edge.1 ≠ edge.2 ∧
      edge.1 ∈ members ∧ edge.2 ∈ members).card).sum ≤ edges.card := by
  induction parts generalizing edges with
  | nil => simp
  | cons members others inductionHypothesis =>
      obtain ⟨apart, disjointOthers⟩ := List.pairwise_cons.mp disjoint
      -- The edges that start outside of the first part are those that the other parts may have.
      let outside := edges.filter fun edge => edge.1 ∉ members
      have others_eq : (others.map fun other => (edges.filter fun edge => edge.1 ≠ edge.2 ∧
          edge.1 ∈ other ∧ edge.2 ∈ other).card) = others.map fun other =>
            (outside.filter fun edge => edge.1 ≠ edge.2 ∧ edge.1 ∈ other ∧ edge.2 ∈ other).card := by
        refine List.map_congr_left fun other isOther => congrArg Finset.card ?_
        rw [Finset.filter_filter]
        refine Finset.filter_congr fun edge _ => (and_iff_right_of_imp fun inside => ?_).symm
        exact fun member => apart other isOther member inside.2.1
      have first : (edges.filter fun edge => edge.1 ≠ edge.2 ∧
          edge.1 ∈ members ∧ edge.2 ∈ members).card ≤
            (edges.filter fun edge => edge.1 ∈ members).card :=
        Finset.card_le_card (Finset.monotone_filter_right _ fun _ _ inside => inside.2.1)
      have split : (edges.filter fun edge => edge.1 ∈ members).card + outside.card = edges.card :=
        Finset.card_filter_add_card_filter_not _
      have rest := inductionHypothesis outside disjointOthers
      rw [List.map_cons, List.sum_cons, others_eq]
      omega

/-- An edge is internal to one component at most. -/
theorem ReportsClasses.sum_internalEdges_le {α : Type} {components : List (Component α)}
    (reports : graph.ReportsClasses components) (wellFormed : graph.WellFormed) :
    (components.map Component.internalEdges).sum ≤ graph.edges.length := by
  have disjoint : (components.map Component.members).Pairwise List.Disjoint :=
    List.pairwise_map.mpr (List.nodup_flatMap.mp
      (reports.members_perm.nodup_iff.mpr wellFormed.nodup_addresses)).2
  rw [← List.toFinset_card_of_nodup wellFormed.nodup_edges,
    List.map_congr_left reports.internalEdges_eq]
  have bound := sum_card_inside_le graph.edges.toFinset disjoint
  rwa [List.map_map] at bound

/-! ## Densities in exact arithmetic -/

/-- With as many edges as members or more, and no more than pairs of them, a density lies between
that of a simple cycle and one. -/
theorem densityOf_bounds {size internalEdges : Nat} (several : 1 < size)
    (lower : size ≤ internalEdges) (upper : internalEdges ≤ size * (size - 1)) :
    1 / ((size : ℚ) - 1) ≤ densityOf size internalEdges ∧
      densityOf size internalEdges ≤ (1 : ℚ) := by
  obtain ⟨others, rfl⟩ := Nat.exists_eq_add_of_lt several
  have density : densityOf (1 + others + 1) internalEdges =
      (internalEdges : ℚ) / (((1 + others + 1) * (1 + others) : Nat) : ℚ) := if_pos several
  have positive : (0 : ℚ) < ((1 + others : Nat) : ℚ) := by positivity
  have pairs : (0 : ℚ) < (((1 + others + 1) * (1 + others) : Nat) : ℚ) := by positivity
  rw [Nat.add_sub_cancel] at upper
  have others_eq : ((1 + others + 1 : Nat) : ℚ) - 1 = ((1 + others : Nat) : ℚ) := by
    push_cast
    ring
  rw [density, others_eq, div_le_div_iff₀ positive pairs, div_le_one pairs]
  refine ⟨?_, by exact_mod_cast upper⟩
  rw [one_mul]
  exact_mod_cast Nat.mul_le_mul_right (1 + others) lower

/-- The strength of components whose densities are positive shares. -/
theorem strength_bounds {components : List (Component ℚ)}
    (shares : ∀ component ∈ components, 1 < component.size →
      0 < component.density ∧ component.density ≤ 1) :
    let several := components.filter fun component => 1 < component.size
    let strength : ℚ := Scalar.sum (several.map fun component =>
      Scalar.ofNat component.size * component.density)
    0 ≤ strength ∧ strength ≤ ((components.map Component.size).sum : Nat) ∧
      (strength = 0 ↔ several = []) := by
  intro several strength
  have strength_eq : strength =
      (several.map fun component => (component.size : ℚ) * component.density).sum :=
    Scalar.sum_rational _
  have isSeveral : ∀ component ∈ several, (0 : ℚ) < component.size ∧
      0 < component.density ∧ component.density ≤ 1 := by
    intro component member
    obtain ⟨isComponent, size⟩ := List.mem_filter.mp member
    have size : 1 < component.size := of_decide_eq_true size
    exact ⟨by exact_mod_cast Nat.zero_lt_of_lt size, shares component isComponent size⟩
  have positive : ∀ term ∈ several.map fun component =>
      (component.size : ℚ) * component.density, 0 < term := by
    refine List.forall_mem_map.mpr fun component member => ?_
    obtain ⟨size, density, _⟩ := isSeveral component member
    exact mul_pos size density
  rw [strength_eq]
  refine ⟨List.sum_nonneg fun term member => (positive term member).le, ?_, ?_⟩
  · calc (several.map fun component => (component.size : ℚ) * component.density).sum
      _ ≤ (several.map fun component => (component.size : ℚ)).sum := by
        refine List.sum_le_sum fun component member => ?_
        obtain ⟨size, _, atMost⟩ := isSeveral component member
        exact mul_le_of_le_one_right size.le atMost
      _ = ((several.map Component.size).sum : Nat) := by
        rw [Nat.cast_list_sum, List.map_map]
        rfl
      _ ≤ ((components.map Component.size).sum : Nat) := by
        exact_mod_cast (List.filter_sublist.map Component.size).sum_le_sum
          fun _ _ => Nat.zero_le _
  · constructor
    · intro zero
      by_contra nonempty
      have more := List.sum_pos _ positive (by simpa using nonempty)
      exact more.ne' zero
    · rintro empty
      simp [empty]

/-- Densities are shares. Whatever was done to build a graph, with or without the zero address and
in whatever arithmetic, a component of several nodes has at least as many edges inside as nodes and
at most as many as pairs of different nodes, one of a single node has none and density zero, and all
components together have no more edges inside than there are. So in exact arithmetic the density of
`n` nodes lies between `1 / (n - 1)` and one, and the strength of the components between zero and
the number of nodes. The strength is zero exactly if no cycle runs through different contracts. -/
theorem densities_are_shares (built : graph.Built) (excludeZero : Bool) :
    let analyzed := if excludeZero then graph.withoutZero else graph
    (∀ {α : Type} [Scalar α] (percent : α),
      let statistics := graph.analyze ⟨excludeZero, percent⟩
      (∀ component ∈ statistics.components, 1 < component.size →
        component.size ≤ component.internalEdges ∧
          component.internalEdges ≤ component.size * (component.size - 1)) ∧
      (∀ component ∈ statistics.components, component.size = 1 →
        component.internalEdges = 0 ∧ component.density = Scalar.ofNat 0) ∧
      (statistics.components.map Component.internalEdges).sum ≤ statistics.edgeCount) ∧
    ∀ percent : ℚ,
      let statistics := graph.analyze ⟨excludeZero, percent⟩
      (∀ component ∈ statistics.components, 1 < component.size →
        1 / ((component.size : ℚ) - 1) ≤ component.density ∧ component.density ≤ 1) ∧
      0 ≤ statistics.clusterStrength ∧ statistics.clusterStrength ≤ statistics.nodeCount ∧
      (statistics.clusterStrength = 0 ↔ ¬ ∃ cycle : Cycle String,
        cycle.Nodup ∧ cycle.Nontrivial ∧ cycle.Chain (Edge analyzed.edges)) := by
  intro analyzed
  have wellFormed : analyzed.WellFormed := built.wellFormed_analyzed excludeZero
  constructor
  · intro α _ percent statistics
    have reports : analyzed.ReportsClasses statistics.components := wellFormed.reportsClasses
    refine ⟨fun component isComponent several => ⟨reports.size_le_internalEdges wellFormed
      isComponent several, reports.internalEdges_le isComponent⟩,
      fun component isComponent single => ⟨?_, ?_⟩, reports.sum_internalEdges_le wellFormed⟩
    · simpa [single] using reports.internalEdges_le isComponent
    · rw [wellFormed.density_eq component isComponent, densityOf, if_neg (by omega)]
  · intro percent statistics
    have reports : analyzed.ReportsClasses statistics.components := wellFormed.reportsClasses
    have bounds : ∀ component ∈ statistics.components, 1 < component.size →
        1 / ((component.size : ℚ) - 1) ≤ component.density ∧ component.density ≤ 1 := by
      intro component isComponent several
      rw [wellFormed.density_eq component isComponent]
      exact densityOf_bounds several
        (reports.size_le_internalEdges wellFormed isComponent several)
        (reports.internalEdges_le isComponent)
    have shares : ∀ component ∈ statistics.components, 1 < component.size →
        0 < component.density ∧ component.density ≤ 1 := by
      intro component isComponent several
      obtain ⟨lower, upper⟩ := bounds component isComponent several
      have others : (0 : ℚ) < (component.size : ℚ) - 1 :=
        sub_pos.mpr (by exact_mod_cast several)
      exact ⟨(one_div_pos.mpr others).trans_le lower, upper⟩
    obtain ⟨nonnegative, atMost, zero_iff⟩ := strength_bounds shares
    rw [reports.sum_sizes] at atMost
    refine ⟨bounds, nonnegative, atMost, zero_iff.trans ?_⟩
    rw [← Reachability.exists_mutual_iff_exists_cycle, ← reports.exists_several_iff wellFormed]
    simp [List.filter_eq_nil_iff]

/-- Two contracts call each other, and one of them itself: the component has both possible edges. -/
theorem densities_are_shares_twoCallers :
    let statistics := twoCallers.analyze ⟨true, (75 : ℚ)⟩
    twoCallers.Built ∧
      (∀ component ∈ statistics.components, 1 < component.size →
        component.size ≤ component.internalEdges ∧
          component.internalEdges ≤ component.size * (component.size - 1)) ∧
      (statistics.components.map Component.internalEdges).sum ≤ 3 ∧
      statistics.clusterStrength ≤ 2 ∧ statistics.clusterStrength ≠ 0 := by
  intro statistics
  obtain ⟨counts, shares⟩ := densities_are_shares built_twoCallers true
  obtain ⟨inside, _, sum⟩ := counts (75 : ℚ)
  obtain ⟨_, _, atMost, zero_iff⟩ := shares 75
  have edges_eq : twoCallers.withoutZero.edges = [("a", "b"), ("b", "a"), ("b", "b")] := by
    decide
  have edgeCount : statistics.edgeCount = 3 := congrArg List.length edges_eq
  have nodeCount : statistics.nodeCount = 2 := by
    change twoCallers.withoutZero.nodes.length = 2
    decide
  have mutually : Mutual twoCallers.withoutZero.edges "a" "b" := by
    rw [edges_eq]
    exact ⟨.single (by simp [Edge]), .single (by simp [Edge])⟩
  rw [edgeCount] at sum
  rw [nodeCount] at atMost
  exact ⟨built_twoCallers, inside, sum, atMost, fun zero =>
    zero_iff.mp zero (Reachability.exists_cycle_of_mutual (by decide) mutually)⟩

end ContractGraph

end ContractAtlas

import ContractAtlas.Proofs.Graph.Reachability

/-!
# Cycles and mutual reachability

Two different vertices that reach each other need not lie on one cycle that visits no vertex twice,
but then there is such a cycle nearby: it leaves one of them by an edge to another vertex and comes
back by a path without repetitions. Where vertices do lie on a closed walk, they reach each other.
-/

namespace ContractAtlas.Reachability

open Relation (ReflTransGen)

variable {Vertex : Type} {edges : List (Vertex × Vertex)} {left right : Vertex}

/-- What can be reached can be reached without visiting a vertex twice. -/
theorem exists_nodup_path (leads : ReflTransGen (Edge edges) left right) :
    ∃ path, (left :: path).IsChain (Edge edges) ∧ (left :: path).Nodup ∧
      (left :: path).getLast? = some right := by
  induction leads using ReflTransGen.head_induction_on with
  | refl => exact ⟨[], by simp⟩
  | @head source next edge _ inductionHypothesis =>
      obtain ⟨path, isChain, distinct, ends⟩ := inductionHypothesis
      by_cases visited : source ∈ next :: path
      · -- The path comes back to where it starts, so the part before that is cut off.
        obtain ⟨before, after, split⟩ := List.append_of_mem visited
        rw [split] at isChain distinct ends
        exact ⟨after, (List.isChain_append.mp isChain).2.1, (List.nodup_append.mp distinct).2.1,
          by rwa [List.getLast?_append_cons] at ends⟩
      · exact ⟨next :: path, List.isChain_cons_cons.mpr ⟨edge, isChain⟩,
          List.nodup_cons.mpr ⟨visited, distinct⟩, by rwa [List.getLast?_cons_cons]⟩

/-- The vertices of a closed walk reach each other. -/
theorem mutual_of_chain {cycle : Cycle Vertex} (closed : cycle.Chain (Edge edges))
    (ofLeft : left ∈ cycle) (ofRight : right ∈ cycle) : Mutual edges left right := by
  have leads := Cycle.chain_iff_pairwise.mp
    (closed.imp fun _ _ edge => ReflTransGen.single edge)
  exact ⟨leads left ofLeft right ofRight, leads right ofRight left ofLeft⟩

/-- A vertex that reaches another one and is reached from it lies on a cycle of several vertices
that visits none of them twice. -/
theorem exists_cycle_of_mutual (different : left ≠ right) (mutually : Mutual edges left right) :
    ∃ cycle : Cycle Vertex, cycle.Nodup ∧ cycle.Nontrivial ∧ cycle.Chain (Edge edges) := by
  obtain ⟨path, isChain, distinct, ends⟩ := exists_nodup_path mutually.1
  cases path with
  | nil => exact absurd (by simpa using ends) different
  | cons next path =>
      rw [List.isChain_cons_cons] at isChain
      obtain ⟨edge, rest⟩ := isChain
      have other : next ≠ left := by
        rintro rfl
        exact (List.nodup_cons.mp distinct).1 (List.mem_cons_self ..)
      have onward : ReflTransGen (Edge edges) next right := by
        refine List.relationReflTransGen_of_exists_isChain_cons path rest ?_
        rw [List.getLast?_cons_cons] at ends
        exact List.getLast_of_mem_getLast? ends
      obtain ⟨back, isBack, distinctBack, endsBack⟩ := exists_nodup_path (onward.trans mutually.2)
      refine ⟨(next :: back : List Vertex), Cycle.nodup_coe_iff.mpr distinctBack, ?_, ?_⟩
      · exact ⟨next, left, other, by simp, List.mem_of_getLast? endsBack⟩
      · rw [Cycle.chain_coe_cons, ← List.cons_append, List.isChain_append]
        refine ⟨isBack, List.isChain_singleton _, ?_⟩
        rw [endsBack]
        simpa using edge

/-- There are different vertices that reach each other exactly if there is a cycle through different
vertices. -/
theorem exists_mutual_iff_exists_cycle :
    (∃ left right, left ≠ right ∧ Mutual edges left right) ↔
      ∃ cycle : Cycle Vertex, cycle.Nodup ∧ cycle.Nontrivial ∧ cycle.Chain (Edge edges) := by
  constructor
  · rintro ⟨left, right, different, mutually⟩
    exact exists_cycle_of_mutual different mutually
  · rintro ⟨cycle, _, ⟨left, right, different, ofLeft, ofRight⟩, closed⟩
    exact ⟨left, right, different, mutual_of_chain closed ofLeft ofRight⟩

end ContractAtlas.Reachability

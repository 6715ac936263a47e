import Mathlib
import ContractAtlas.Graph.Statistics

/-!
# Counting the edges inside classes

The edges inside all classes are counted in one run over the edges, with a table that gives the
place of the class of every position. Where every position is in exactly one class, the table says
which one, and the count of a class is the number of edges between two different positions of it
(`internalEdges_eq`).
-/

namespace ContractAtlas.ContractGraph

/-! ## The table of places -/

section

variable {places positions : List Nat} {position place : Nat}

@[simp] theorem length_setPlaces :
    (setPlaces places (positions, place)).length = places.length := by
  rw [setPlaces]
  induction positions generalizing places with
  | nil => rfl
  | cons first later inductionHypothesis =>
      rw [List.foldl_cons, inductionHypothesis, List.length_set]

/-- The place of a position outside a class is left as it was. -/
theorem getElem?_setPlaces_of_not_mem (other : position ∉ positions) :
    (setPlaces places (positions, place))[position]? = places[position]? := by
  rw [setPlaces]
  induction positions generalizing places with
  | nil => rfl
  | cons first later inductionHypothesis =>
      rw [List.mem_cons, not_or] at other
      rw [List.foldl_cons, inductionHypothesis other.2, List.getElem?_set_ne (Ne.symm other.1)]

/-- The positions of a class get the place of the class. -/
theorem getElem?_setPlaces_of_mem (member : position ∈ positions)
    (inside : position < places.length) :
    (setPlaces places (positions, place))[position]? = some place := by
  induction positions generalizing places with
  | nil => cases member
  | cons first later inductionHypothesis =>
      have first_eq : setPlaces places (first :: later, place) =
          setPlaces (places.set first place) (later, place) := rfl
      rw [first_eq]
      by_cases again : position ∈ later
      · exact inductionHypothesis again (by rwa [List.length_set])
      · obtain rfl := (List.mem_cons.mp member).resolve_right again
        rw [getElem?_setPlaces_of_not_mem again, List.getElem?_set_self inside]

end

section

variable {count : Nat} {classes : List (List Nat)} {position place : Nat} {positions : List Nat}

/-- A position outside all classes keeps its place. -/
theorem getElem?_foldl_setPlaces_of_not_mem {start : Nat} {places : List Nat}
    (other : ∀ positions ∈ classes, position ∉ positions) :
    ((classes.zipIdx start).foldl setPlaces places)[position]? = places[position]? := by
  induction classes generalizing start places with
  | nil => rfl
  | cons first later inductionHypothesis =>
      obtain ⟨notFirst, notLater⟩ := List.forall_mem_cons.mp other
      rw [List.zipIdx_cons, List.foldl_cons, inductionHypothesis notLater,
        getElem?_setPlaces_of_not_mem notFirst]

/-- As classes are disjoint, a position ends up with the place of the one class that has it. -/
theorem getElem?_foldl_setPlaces {start : Nat} {places : List Nat}
    (disjoint : classes.Pairwise List.Disjoint) (inside : position < places.length)
    (found : classes[place]? = some positions) (member : position ∈ positions) :
    ((classes.zipIdx start).foldl setPlaces places)[position]? = some (start + place) := by
  induction classes generalizing start place places with
  | nil => cases found
  | cons first later inductionHypothesis =>
      obtain ⟨apart, disjointLater⟩ := List.pairwise_cons.mp disjoint
      rw [List.zipIdx_cons, List.foldl_cons]
      cases place with
      | zero =>
          -- No later class has the position, so it keeps the place that it gets first.
          obtain rfl : first = positions := by simpa using found
          rw [getElem?_foldl_setPlaces_of_not_mem fun other isLater => apart other isLater member,
            getElem?_setPlaces_of_mem member inside, Nat.add_zero]
      | succ place =>
          rw [inductionHypothesis disjointLater (by rwa [length_setPlaces]) found,
            Nat.add_right_comm, Nat.add_assoc]

/-- The table gives the place of the class that a position is in. -/
theorem getD_classPlaces (disjoint : classes.Pairwise List.Disjoint) (inside : position < count)
    (found : classes[place]? = some positions) (member : position ∈ positions) :
    (classPlaces count classes).getD position 0 = place := by
  rw [List.getD_eq_getElem?_getD, classPlaces,
    getElem?_foldl_setPlaces disjoint (by rwa [List.length_replicate]) found member]
  simp

/-- Where every position is in exactly one class, it is in the one that the table gives. -/
theorem getD_classPlaces_eq_iff (partition : classes.flatten.Perm (List.range count))
    (inside : position < count) (found : classes[place]? = some positions) :
    (classPlaces count classes).getD position 0 = place ↔ position ∈ positions := by
  have disjoint := (List.nodup_flatten.mp (partition.nodup_iff.mpr List.nodup_range)).2
  constructor
  · intro given
    obtain ⟨own, isClass, ofOwn⟩ :=
      List.mem_flatten.mp (partition.mem_iff.mpr (List.mem_range.mpr inside))
    obtain ⟨ownPlace, ownFound⟩ := List.mem_iff_getElem?.mp isClass
    rw [getD_classPlaces disjoint inside ownFound ofOwn] at given
    rw [given, found] at ownFound
    exact Option.some.inj ownFound ▸ ofOwn
  · exact getD_classPlaces disjoint inside found

end

/-! ## The counts -/

/-- An edge counts for the place that both its ends have, unless they are the same. -/
theorem getElem?_countInside (places counts : List Nat) (edge : Nat × Nat) (place : Nat) :
    (countInside places counts edge)[place]? =
      counts[place]?.map (· + if edge.1 ≠ edge.2 ∧ places.getD edge.1 0 = place ∧
        places.getD edge.2 0 = place then 1 else 0) := by
  rw [countInside]
  generalize places.getD edge.1 0 = source, places.getD edge.2 0 = target
  by_cases inside : edge.1 ≠ edge.2 ∧ source = target
  · obtain ⟨different, rfl⟩ := inside
    by_cases here : source = place <;> simp [different, here]
  · have apart : ¬ (edge.1 ≠ edge.2 ∧ source = place ∧ target = place) :=
      fun ⟨different, here, there⟩ => inside ⟨different, here.trans there.symm⟩
    rw [if_neg (by simpa using inside), if_neg apart]
    simp

/-- All edges together count once each, for the place of their ends. -/
theorem getElem?_foldl_countInside (places : List Nat) (edges : List (Nat × Nat))
    (counts : List Nat) (place : Nat) :
    (edges.foldl (countInside places) counts)[place]? =
      counts[place]?.map (· + edges.countP fun edge => edge.1 ≠ edge.2 ∧
        places.getD edge.1 0 = place ∧ places.getD edge.2 0 = place) := by
  induction edges generalizing counts with
  | nil => simp
  | cons edge later inductionHypothesis =>
      rw [List.foldl_cons, inductionHypothesis, getElem?_countInside, List.countP_cons,
        Option.map_map]
      simp [Function.comp_def, Nat.add_assoc, Nat.add_comm]

/-- The number of edges between two different positions of a class. -/
def edgesWithin (edges : List (Nat × Nat)) (positions : List Nat) : Nat :=
  edges.countP fun edge => edge.1 ≠ edge.2 ∧ edge.1 ∈ positions ∧ edge.2 ∈ positions

/-- Where every position is in exactly one class, the counts are those of the edges within the
classes. -/
theorem internalEdges_eq {count : Nat} {classes : List (List Nat)} {edges : List (Nat × Nat)}
    (partition : classes.flatten.Perm (List.range count))
    (inside : ∀ edge ∈ edges, edge.1 < count ∧ edge.2 < count) :
    internalEdges (classPlaces count classes) classes.length edges =
      classes.map (edgesWithin edges) := by
  refine List.ext_getElem? fun place => ?_
  rw [internalEdges, getElem?_foldl_countInside, List.getElem?_map]
  cases found : classes[place]? with
  | none =>
      have outside := List.getElem?_eq_none_iff.mp found
      simp [outside]
  | some positions =>
      obtain ⟨within, _⟩ := List.getElem?_eq_some_iff.mp found
      rw [List.getElem?_replicate_of_lt within, Option.map_some, Option.map_some, Nat.zero_add,
        edgesWithin]
      refine congrArg some (List.countP_congr fun edge member => ?_)
      obtain ⟨sourceInside, targetInside⟩ := inside edge member
      simp only [decide_eq_true_eq, getD_classPlaces_eq_iff partition sourceInside found,
        getD_classPlaces_eq_iff partition targetInside found]

end ContractAtlas.ContractGraph

import Mathlib
import ContractAtlas.Graph.Reachability

/-!
# Correctness of reachability

Allowing a vertex in between keeps what was reached before and makes the relation transitive at that
vertex, without taking this from the vertices before (`TransitiveAt.through`). After all vertices
the relation is transitive, so it is reachability along edges, and the classes are those of mutual
reachability. No path is taken apart for this.
-/

namespace ContractAtlas.Reachability

open Relation (ReflTransGen)

/-! ## One vertex in between -/

section

variable {edges : List (Nat × Nat)} {rows : List Nat} {vertex source target : Nat}

/-- One shifted by a vertex has the bit of the vertex alone. -/
theorem testBit_one_shiftLeft (vertex target : Nat) :
    (1 <<< vertex).testBit target = true ↔ vertex = target := by
  rw [Nat.one_shiftLeft, Nat.testBit_two_pow, decide_eq_true_iff]

/-- Going through the edges sets the bits of the targets of a vertex. -/
theorem testBit_foldl_directRow (vertex target row : Nat) :
    (edges.foldl (fun row edge => if edge.1 = vertex then row ||| 1 <<< edge.2 else row)
        row).testBit target = true ↔ row.testBit target = true ∨ (vertex, target) ∈ edges := by
  induction edges generalizing row with
  | nil => simp
  | cons edge later inductionHypothesis =>
      rw [List.foldl_cons, inductionHypothesis, List.mem_cons]
      by_cases same : edge.1 = vertex
      · simp only [same, if_true, Nat.testBit_or, Bool.or_eq_true, testBit_one_shiftLeft, or_assoc,
          Prod.ext_iff, true_and, @eq_comm _ target]
      · simp [same, Prod.ext_iff, Ne.symm same]

/-- A row starts with the vertex itself and the targets of its edges. -/
theorem testBit_directRow :
    (directRow edges vertex).testBit target = true ↔
      vertex = target ∨ (vertex, target) ∈ edges := by
  rw [directRow, testBit_foldl_directRow, testBit_one_shiftLeft]

/-- A vertex reaches what its row has a bit for. -/
theorem reaches_eq_true_iff :
    reaches rows source target = true ↔
      ∃ row, rows[source]? = some row ∧ row.testBit target = true := by
  rw [reaches, List.getD_eq_getElem?_getD]
  cases rows[source]? <;> simp

/-- Without vertices in between, a vertex reaches itself and the targets of its edges. -/
theorem reaches_direct {count : Nat} (inside : source < count) :
    reaches (direct count edges) source target = true ↔
      source = target ∨ (source, target) ∈ edges := by
  simp [reaches_eq_true_iff, direct, inside, testBit_directRow]

/-- Only the vertices that there are reach anything. -/
theorem lt_of_reaches_direct {count : Nat}
    (reached : reaches (direct count edges) source target = true) : source < count := by
  obtain ⟨row, found, _⟩ := reaches_eq_true_iff.mp reached
  obtain ⟨inside, _⟩ := List.getElem?_eq_some_iff.mp found
  simpa [direct] using inside

/-- Going through a vertex joins the ways into it with those out of it. -/
theorem reaches_through :
    reaches (through rows vertex) source target = true ↔
      reaches rows source target = true ∨
        reaches rows source vertex = true ∧ reaches rows vertex target = true := by
  have onward : reaches rows vertex target = (rows.getD vertex 0).testBit target := rfl
  rw [onward]
  simp only [reaches_eq_true_iff, through, List.getElem?_map]
  cases rows[source]? with
  | none => simp
  | some row => by_cases reached : row.testBit vertex = true <;> simp [reached]

/-- Whether a relation may be composed at a vertex. -/
def TransitiveAt (rows : List Nat) (vertex : Nat) : Prop :=
  ∀ source target, reaches rows source vertex = true → reaches rows vertex target = true →
    reaches rows source target = true

/-- After going through a vertex there is nothing more to join at it. -/
theorem transitiveAt_through : TransitiveAt (through rows vertex) vertex := by
  intro source target arrive leave
  rw [reaches_through] at arrive leave ⊢
  exact .inr ⟨arrive.elim id And.left, leave.elim id And.right⟩

/-- Composition at a vertex survives another vertex in between. -/
theorem TransitiveAt.through {other : Nat} (transitive : TransitiveAt rows other) :
    TransitiveAt (through rows vertex) other := by
  intro source target arrive leave
  rw [reaches_through] at arrive leave ⊢
  obtain arrive | ⟨arrive, onward⟩ := arrive
  · obtain leave | ⟨back, leave⟩ := leave
    · exact .inl (transitive source target arrive leave)
    · exact .inr ⟨transitive source vertex arrive back, leave⟩
  · obtain leave | ⟨_, leave⟩ := leave
    · exact .inr ⟨arrive, transitive vertex target onward leave⟩
    · exact .inr ⟨arrive, leave⟩

end

/-! ## All vertices in between -/

section

variable {rows : List Nat} {vertices : List Nat} {vertex source target : Nat}

/-- Going through vertices takes no way away. -/
theorem reaches_foldl_of_reaches (reached : reaches rows source target = true) :
    reaches (vertices.foldl through rows) source target = true := by
  induction vertices generalizing rows with
  | nil => exact reached
  | cons first later inductionHypothesis =>
      exact inductionHypothesis (reaches_through.mpr (.inl reached))

/-- Nothing more can be joined at a vertex after going through others. -/
theorem TransitiveAt.foldl (transitive : TransitiveAt rows vertex) :
    TransitiveAt (vertices.foldl Reachability.through rows) vertex := by
  induction vertices generalizing rows with
  | nil => exact transitive
  | cons first later inductionHypothesis => exact inductionHypothesis transitive.through

/-- The relation may be composed at every vertex that was allowed in between. -/
theorem transitiveAt_foldl (member : vertex ∈ vertices) :
    TransitiveAt (vertices.foldl through rows) vertex := by
  induction vertices generalizing rows with
  | nil => cases member
  | cons first later inductionHypothesis =>
      obtain rfl | member := List.mem_cons.mp member
      · rw [List.foldl_cons]
        exact transitiveAt_through.foldl
      · exact inductionHypothesis member

/-- Vertices in between lead nowhere that a transitive relation does not lead. -/
theorem reaches_foldl_sound {leads : Nat → Nat → Prop} [IsTrans Nat leads]
    (sound : ∀ source target, reaches rows source target = true → leads source target)
    (reached : reaches (vertices.foldl through rows) source target = true) :
    leads source target := by
  induction vertices generalizing rows with
  | nil => exact sound source target reached
  | cons first later inductionHypothesis =>
      refine inductionHypothesis (fun source target reached => ?_) reached
      obtain direct | ⟨arrive, leave⟩ := reaches_through.mp reached
      · exact sound source target direct
      · exact IsTrans.trans _ _ _ (sound source first arrive) (sound first target leave)

end

/-- The edges of a list as a relation. -/
def Edge {Vertex : Type} (edges : List (Vertex × Vertex)) (source target : Vertex) : Prop :=
  (source, target) ∈ edges

section

variable {count : Nat} {edges : List (Nat × Nat)}

/-- A vertex reaches another in the closure exactly if edges lead from the one to the other. -/
theorem reaches_closure_iff (inside : ∀ edge ∈ edges, edge.2 < count) {source target : Nat}
    (start : source < count) :
    reaches (closure count edges) source target = true ↔
      ReflTransGen (Edge edges) source target := by
  constructor
  · refine reaches_foldl_sound fun source target reached => ?_
    obtain rfl | edge := (reaches_direct (lt_of_reaches_direct reached)).mp reached
    · exact .refl
    · exact .single edge
  · intro leads
    have reached : target < count ∧ reaches (closure count edges) source target = true := by
      induction leads with
      | refl => exact ⟨start, reaches_foldl_of_reaches ((reaches_direct start).mpr (.inl rfl))⟩
      | @tail middle target _ edge inductionHypothesis =>
          obtain ⟨within, reached⟩ := inductionHypothesis
          have last : reaches (closure count edges) middle target = true :=
            reaches_foldl_of_reaches ((reaches_direct within).mpr (.inr edge))
          exact ⟨inside _ edge, transitiveAt_foldl (List.mem_range.mpr within) _ _ reached last⟩
    exact reached.2

/-! ## Classes -/

/-- Whether each of two vertices reaches the other along edges. -/
def Mutual {Vertex : Type} (edges : List (Vertex × Vertex)) (left right : Vertex) : Prop :=
  AntisymmRel (ReflTransGen (Edge edges)) left right

/-- Two vertices reach each other in the closure exactly if there are ways along the edges in both
directions. -/
theorem reachEachOther_iff (inside : ∀ edge ∈ edges, edge.2 < count) {left right : Nat}
    (leftInside : left < count) (rightInside : right < count) :
    reachEachOther (closure count edges) left right = true ↔ Mutual edges left right := by
  rw [reachEachOther, Bool.and_eq_true, reaches_closure_iff inside leftInside,
    reaches_closure_iff inside rightInside]
  rfl

variable (inside : ∀ edge ∈ edges, edge.2 < count)

include inside

/-- The class of a vertex has the vertices that it reaches and is reached from. -/
theorem mem_classOf {vertex other : Nat} (vertexInside : vertex < count) :
    other ∈ classOf (closure count edges) count vertex ↔
      other < count ∧ Mutual edges vertex other := by
  rw [classOf, List.mem_filter, List.mem_range]
  exact and_congr_right fun otherInside => reachEachOther_iff inside vertexInside otherInside

/-- Vertices that reach each other have one class. -/
theorem classOf_eq {left right : Nat} (leftInside : left < count) (rightInside : right < count)
    (together : Mutual edges left right) :
    classOf (closure count edges) count left = classOf (closure count edges) count right := by
  refine List.filter_congr fun other member => ?_
  have otherInside := List.mem_range.mp member
  rw [Bool.eq_iff_iff, reachEachOther_iff inside leftInside otherInside,
    reachEachOther_iff inside rightInside otherInside]
  exact ⟨fun toOther => together.symm.trans toOther, fun toOther => together.trans toOther⟩

/-- The classes are those of the vertices. -/
theorem mem_classes {vertices : List Nat} :
    vertices ∈ classes count edges ↔
      ∃ vertex < count, classOf (closure count edges) count vertex = vertices := by
  simp only [classes, List.mem_map, List.mem_filter, List.mem_range, decide_eq_true_eq]
  constructor
  · rintro ⟨vertex, ⟨vertexInside, _⟩, rfl⟩
    exact ⟨vertex, vertexInside, rfl⟩
  · rintro ⟨vertex, vertexInside, rfl⟩
    -- The class is listed at its least vertex, which need not be the one it is taken of.
    have own : vertex ∈ classOf (closure count edges) count vertex :=
      (mem_classOf inside vertexInside).mpr ⟨vertexInside, .rfl⟩
    obtain ⟨least, leads⟩ := Option.isSome_iff_exists.mp
      (List.isSome_head?.mpr (List.ne_nil_of_mem own))
    obtain ⟨leastInside, together⟩ :=
      (mem_classOf inside vertexInside).mp (List.mem_of_mem_head? leads)
    have same := classOf_eq inside leastInside vertexInside together.symm
    exact ⟨least, ⟨leastInside, by rw [same, leads]⟩, same⟩

/-- No vertex is in two classes. -/
theorem nodup_flatten_classes : (classes count edges).flatten.Nodup := by
  rw [List.nodup_flatten]
  constructor
  · intro vertices member
    obtain ⟨vertex, _, rfl⟩ := (mem_classes inside).mp member
    exact List.nodup_range.filter _
  · rw [classes, List.pairwise_map]
    refine (List.nodup_range.filter _).imp_of_mem fun {left right} leftListed rightListed ne => ?_
    simp only [List.mem_filter, List.mem_range, decide_eq_true_eq] at leftListed rightListed
    obtain ⟨leftInside, leftLeads⟩ := leftListed
    obtain ⟨rightInside, rightLeads⟩ := rightListed
    intro other ofLeft ofRight
    obtain ⟨_, toLeft⟩ := (mem_classOf inside leftInside).mp ofLeft
    obtain ⟨_, toRight⟩ := (mem_classOf inside rightInside).mp ofRight
    have same := classOf_eq inside leftInside rightInside (toLeft.trans toRight.symm)
    rw [same, rightLeads] at leftLeads
    exact ne (Option.some.inj leftLeads).symm

/-- Every vertex is in exactly one class. -/
theorem flatten_classes_perm : (classes count edges).flatten.Perm (List.range count) := by
  refine (List.perm_ext_iff_of_nodup (nodup_flatten_classes inside) List.nodup_range).mpr ?_
  intro vertex
  rw [List.mem_flatten, List.mem_range]
  constructor
  · rintro ⟨vertices, isClass, member⟩
    obtain ⟨other, otherInside, rfl⟩ := (mem_classes inside).mp isClass
    exact ((mem_classOf inside otherInside).mp member).1
  · intro vertexInside
    exact ⟨_, (mem_classes inside).mpr ⟨vertex, vertexInside, rfl⟩,
      (mem_classOf inside vertexInside).mpr ⟨vertexInside, .rfl⟩⟩

/-- Two vertices are in one class exactly if each reaches the other. -/
theorem exists_mem_classes_iff {left right : Nat} (leftInside : left < count)
    (rightInside : right < count) :
    (∃ vertices ∈ classes count edges, left ∈ vertices ∧ right ∈ vertices) ↔
      Mutual edges left right := by
  constructor
  · rintro ⟨vertices, isClass, ofLeft, ofRight⟩
    obtain ⟨vertex, vertexInside, rfl⟩ := (mem_classes inside).mp isClass
    obtain ⟨_, toLeft⟩ := (mem_classOf inside vertexInside).mp ofLeft
    obtain ⟨_, toRight⟩ := (mem_classOf inside vertexInside).mp ofRight
    exact toLeft.symm.trans toRight
  · intro together
    exact ⟨_, (mem_classes inside).mpr ⟨left, leftInside, rfl⟩,
      (mem_classOf inside leftInside).mpr ⟨leftInside, .rfl⟩,
      (mem_classOf inside leftInside).mpr ⟨rightInside, together⟩⟩

end

end ContractAtlas.Reachability

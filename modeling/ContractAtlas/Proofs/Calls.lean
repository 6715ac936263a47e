import ContractAtlas.Calls
import ContractAtlas.Proofs.Json.SortedFields
import ContractAtlas.Proofs.Text.Splitting
import ContractAtlas.Proofs.Text.Words

/-!
# The calls that are dependencies

A call is noise if one of the exception tokens or the name of a library occurs in it, where the
libraries are the words that the library calls start with (`IsLibrary`, `IsNoise`). The dependencies
are the other calls, in their order and with their repetitions. So they depend on nothing but which
libraries there are, and it does not matter whether these exclude calls all at once or one list
after the other. The interfaces of the dependencies are the first words in them that a full stop
follows.
-/

namespace ContractAtlas.Calls

open Text Json

/-- A library of some library calls: one of them starts with its name. -/
def IsLibrary (libraryCalls : List String) (name : String) : Prop :=
  ∃ call ∈ libraryCalls, StartsWithWord call.toList name.toList

/-- A call that is no dependency: an exception token or the name of a library occurs in it. -/
def IsNoise (libraryCalls : List String) (call : String) : Prop :=
  ∃ part, (part ∈ exceptionTokens ∨ IsLibrary libraryCalls part) ∧ part.toList <:+: call.toList

variable {libraryCalls calls : List String} {call name : String}

/-! ## Libraries -/

/-- The name of a library is the word that its call starts with. -/
theorem libraryName?_eq_some_iff :
    libraryName? call = some name ↔ StartsWithWord call.toList name.toList := by
  rw [libraryName?]
  split
  · rename_i empty
    refine iff_of_false (by simp) fun starts => ?_
    have nonempty := starts.ne_nil
    rw [← leadingWord_eq_iff nonempty, empty] at starts
    exact nonempty starts.symm
  · rename_i nonempty
    rw [Option.some.injEq, ← String.toList_inj, String.toList_ofList]
    constructor
    · intro spelled
      have nonemptyName : name.toList ≠ [] := by
        rw [← spelled]
        exact nonempty
      exact (leadingWord_eq_iff nonemptyName).mp spelled
    · intro starts
      exact (leadingWord_eq_iff starts.ne_nil).mpr starts

/-- The names of the libraries are the words that some library call starts with. -/
theorem mem_libraryNames_iff : name ∈ libraryNames libraryCalls ↔ IsLibrary libraryCalls name := by
  rw [libraryNames, SortedFields.mem_distinctNames_iff, List.mem_filterMap]
  simp only [libraryName?_eq_some_iff, IsLibrary]

/-- The libraries of two lists of library calls are those of both. -/
theorem isLibrary_append_iff {earlier later : List String} :
    IsLibrary (earlier ++ later) name ↔ IsLibrary earlier name ∨ IsLibrary later name := by
  simp only [IsLibrary, List.mem_append, or_and_right, exists_or]

/-! ## Noise -/

/-- A call is left out exactly if it is noise: a call of a library or of something that is built in.
-/
theorem isExcluded_eq_true_iff :
    isExcluded (exclusions (libraryNames libraryCalls)) call = true ↔ IsNoise libraryCalls call := by
  simp only [isExcluded, exclusions, List.any_eq_true, List.mem_append, mem_libraryNames_iff,
    contains, containsChars_eq_true_iff, IsNoise]

instance : DecidablePred (IsNoise libraryCalls) := fun _ =>
  decidable_of_iff _ isExcluded_eq_true_iff

/-- What is noise depends on nothing but which libraries there are. -/
theorem isNoise_congr {otherCalls : List String}
    (same : ∀ name, IsLibrary libraryCalls name ↔ IsLibrary otherCalls name) :
    IsNoise libraryCalls call ↔ IsNoise otherCalls call := by
  simp only [IsNoise, same]

/-- Two lists of library calls make noise of what one of them makes noise of. -/
theorem isNoise_append_iff {earlier later : List String} :
    IsNoise (earlier ++ later) call ↔ IsNoise earlier call ∨ IsNoise later call := by
  simp only [IsNoise, isLibrary_append_iff, ← exists_or, ← or_and_right]
  refine exists_congr fun part => and_congr_left fun _ => ?_
  rw [or_or_distrib_left]

/-! ## Dependencies -/

/-- The dependencies are the calls that are not noise. -/
theorem dependencies_eq_filter :
    dependencies (libraryNames libraryCalls) calls =
      calls.filter fun call => ¬ IsNoise libraryCalls call := by
  refine List.filter_congr fun call _ => ?_
  simp [← isExcluded_eq_true_iff]

/-- What remains depends on the library calls only through the set of their names. -/
theorem dependencies_congr {otherCalls : List String}
    (same : ∀ name, IsLibrary libraryCalls name ↔ IsLibrary otherCalls name) :
    dependencies (libraryNames libraryCalls) calls =
      dependencies (libraryNames otherCalls) calls := by
  rw [dependencies_eq_filter, dependencies_eq_filter]
  exact List.filter_congr fun call _ => by simp only [isNoise_congr same]

/-- Excluding calls by one list of library calls and then by another is excluding them by both. -/
theorem dependencies_dependencies {earlier later : List String} :
    dependencies (libraryNames later) (dependencies (libraryNames earlier) calls) =
      dependencies (libraryNames (earlier ++ later)) calls := by
  rw [dependencies_eq_filter, dependencies_eq_filter, dependencies_eq_filter, List.filter_filter]
  refine List.filter_congr fun call _ => ?_
  simp [isNoise_append_iff, Bool.and_comm]

/-- Excluding calls again changes nothing. -/
theorem dependencies_idempotent :
    dependencies (libraryNames libraryCalls) (dependencies (libraryNames libraryCalls) calls) =
      dependencies (libraryNames libraryCalls) calls := by
  rw [dependencies_dependencies]
  exact dependencies_congr fun name => by rw [isLibrary_append_iff, or_self]

/-! ## Interfaces -/

/-- The interface of a call is its receiver. -/
theorem interface?_eq_some_iff :
    interface? call = some name ↔ IsReceiver call.toList name.toList := by
  rw [interface?, ← receiver?_eq_some_iff, Option.map_eq_some_iff]
  constructor
  · rintro ⟨word, found, rfl⟩
    rw [found, String.toList_ofList]
  · intro found
    exact ⟨name.toList, found, String.ofList_toList⟩

/-- The interfaces of some calls are their receivers. -/
theorem mem_interfaces_iff :
    name ∈ interfaces calls ↔ ∃ call ∈ calls, IsReceiver call.toList name.toList := by
  rw [interfaces, SortedFields.mem_distinctNames_iff, List.mem_filterMap]
  simp only [interface?_eq_some_iff]

/-! ## The whole analysis of the calls -/

/-- The dependencies are the calls that are not noise, in order and with repetitions. They depend
only on which libraries there are, excluding calls again changes nothing, and excluding them by one
list of library calls after the other is excluding them by both. The interfaces are the first words
in the dependencies that a full stop follows, each once. -/
theorem dependencies_and_interfaces (libraryCalls calls : List String) :
    dependencies (libraryNames libraryCalls) calls =
        calls.filter (fun call => ¬ IsNoise libraryCalls call) ∧
      let kept := dependencies (libraryNames libraryCalls) calls
      (∀ otherCalls, (∀ name, IsLibrary libraryCalls name ↔ IsLibrary otherCalls name) →
        dependencies (libraryNames otherCalls) calls = kept) ∧
      dependencies (libraryNames libraryCalls) kept = kept ∧
      (∀ later, dependencies (libraryNames later) kept =
        dependencies (libraryNames (libraryCalls ++ later)) calls) ∧
      (interfaces kept).Pairwise (· < ·) ∧
      ∀ name, name ∈ interfaces kept ↔ ∃ call ∈ kept, IsReceiver call.toList name.toList :=
  ⟨dependencies_eq_filter, fun _ same => (dependencies_congr same).symm, dependencies_idempotent,
    fun _ => dependencies_dependencies, SortedFields.pairwise_distinctNames _,
    fun _ => mem_interfaces_iff⟩

/-- Other calls of the same library exclude the same: every call that mentions it anywhere, besides
those with a language construct. A repeated call is kept as often as it is listed. -/
theorem dependencies_and_interfaces_sameLibrary :
    let libraryCalls := ["Größe.max(a,b)", " Unnamed.call()"]
    let otherCalls := ["Größe(a)", "Größe.min(a,b)"]
    let calls := ["token.transfer(to)", "pool.swap(Größe)", "vault.pay(msg.value)",
      "token.transfer(to)", "Unnamed.call()"]
    let kept := ["token.transfer(to)", "token.transfer(to)", "Unnamed.call()"]
    (∀ name, IsLibrary libraryCalls name ↔ IsLibrary otherCalls name) ∧
      dependencies (libraryNames libraryCalls) calls = kept ∧
      dependencies (libraryNames otherCalls) calls = kept ∧
      interfaces kept = ["Unnamed", "token"] := by
  intro libraryCalls otherCalls calls kept
  have libraries : libraryNames libraryCalls = libraryNames otherCalls := by decide
  have same : ∀ name, IsLibrary libraryCalls name ↔ IsLibrary otherCalls name := fun name => by
    rw [← mem_libraryNames_iff, libraries, mem_libraryNames_iff]
  have keeps : dependencies (libraryNames libraryCalls) calls = kept := by decide
  have alike := (dependencies_and_interfaces libraryCalls calls).2.1 otherCalls same
  exact ⟨same, keeps, alike.trans keeps, by decide⟩

end ContractAtlas.Calls

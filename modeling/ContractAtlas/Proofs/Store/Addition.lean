import ContractAtlas.Proofs.Store.Following

/-!
# What saving adds

A session is saved in the first directory that encodes its key, and an address finds the complete
directories that encode a key at it. So if the address of a session finds nothing, the directory
that is picked has no document, and saving the session adds one and changes no other
(`MemoryStore.Tidy.adds_of_save`).
-/

namespace ContractAtlas

open DirectoryView (Complete Adds)
open Json.SortedFields

namespace MemoryStore

/-- Whether a store in exact mode has its directories in order, under names that a directory can
have. -/
structure Tidy (store : MemoryStore) : Prop where
  exact : store.keyMatch = .exact
  sorted : Sorted store.directories
  areNames : ∀ name ∈ names store.directories, Path.IsName name

namespace Tidy

variable {store : MemoryStore} {key : SessionKey} {session : Session}

/-- Saving a session keeps a store tidy. -/
theorem save (tidy : store.Tidy) (nameable : session.IsNameable) (keyed : session.key = .ok key) :
    (store.save session).2.Tidy := by
  rw [store.save_of_key keyed]
  refine ⟨tidy.exact, tidy.sorted.insert _ _, fun name listed => ?_⟩
  rcases mem_names_insert.mp listed with rfl | older
  · exact isName_directoryFor tidy.areNames nameable keyed
  · exact tidy.areNames name older

/-- If the address of a key finds nothing, the directory that is picked for the key has no
document. -/
theorem session?_directoryFor_eq_none (tidy : store.Tidy)
    (supported : Network.isSupported key.network = true)
    (absent : SessionStore.lookup? store key.checksummedAddress = none) (contractName : String) :
    store.session? (store.directoryFor key contractName) = none := by
  by_contra held
  obtain ⟨session, held⟩ := Option.ne_none_iff_exists'.mp held
  obtain ⟨encodedName, encodes⟩ : key.EncodedBy (store.directoryFor key contractName) :=
    encodedBy_directoryFor supported
  have found : (SessionStore.lookup? store key.checksummedAddress).isSome = true := by
    refine DirectoryView.lookup?_isSome_iff.mpr
      ⟨_, _, (complete_iff_session? tidy.sorted).mpr ⟨session, held, rfl⟩, ?_⟩
    rw [show DirectoryView.keyMatch store = .exact from tidy.exact]
    exact KeyMatch.accepts_exact_checksummed.mpr ⟨key, encodedName, encodes, rfl⟩
  rw [absent] at found
  cases found

/-- Where a directory has no document, a session that is put into it makes it complete, and no other
directory. -/
theorem complete_put_iff (tidy : store.Tidy) {picked : String}
    (free : store.session? picked = none) {name : String} {path : Path} :
    Complete (store.put picked (some session)) name path ↔
      Complete store name path ∨ name = picked ∧ path = documentPath picked := by
  rw [complete_iff_session? (tidy.sorted.insert picked (some session)),
    complete_iff_session? tidy.sorted]
  simp only [session?_put]
  by_cases same : picked = name
  · subst same
    simp [free, eq_comm]
  · simp [same, Ne.symm same]

/-- Saving a session whose address finds nothing adds the session. -/
theorem adds_of_save (tidy : store.Tidy) (nameable : session.IsNameable)
    (keyed : session.key = .ok key)
    (absent : SessionStore.lookup? store key.checksummedAddress = none) :
    Adds key store (store.save session).2 := by
  have supported := nameable.isSupported keyed
  have free := tidy.session?_directoryFor_eq_none supported absent session.contractName
  have isName := isName_directoryFor tidy.areNames nameable keyed
  obtain ⟨contractName, encodes⟩ : key.EncodedBy (store.directoryFor key session.contractName) :=
    encodedBy_directoryFor supported
  rw [store.save_of_key keyed]
  generalize store.directoryFor key session.contractName = picked at free isName encodes
  refine ⟨rfl, fun name path complete => ?_, picked, documentPath picked, session, contractName,
    encodes, ?_, keyed, fun _ _ => tidy.complete_put_iff free⟩
  · obtain ⟨other, held, rfl⟩ := (complete_iff_session? tidy.sorted).mp complete
    have isNameToo := tidy.areNames name (mem_names_of_session? held)
    have kept : (store.put picked (some session)).session? name = some other := by
      rw [session?_put, if_neg, held]
      rintro rfl
      cases free.symm.trans held
    exact (load_documentPath_of_isName isNameToo kept).trans
      (load_documentPath_of_isName isNameToo held).symm
  · exact load_documentPath_of_isName isName (by rw [session?_put, if_pos rfl])

end Tidy

end MemoryStore

end ContractAtlas

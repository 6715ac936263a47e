import ContractAtlas.Proofs.Store.Following

/-!
# Stores that are named by their keys

A store in memory is well-keyed when every session is in a directory that has the display of its key
for a name. So are the stores of sessions that say no more than which contract they are about, and
perhaps what it depends on.
-/

namespace ContractAtlas

open DirectoryView (Complete WellKeyed)
open Json.SortedFields

/-! ## Sessions that say little -/

/-- A session that says no more than which contract it is about. -/
def bareSession (key : SessionKey) : Session :=
  { networkInfo := { contractAddress := key.checksummedAddress, contractNetwork := key.network } }

/-- A bare session has the key that it was made for. -/
theorem key_bareSession {key : SessionKey} (named : key.network ≠ "") :
    (bareSession key).key = .ok key := by
  simp [bareSession, Session.key, Session.contractAddress, Session.effectiveNetwork,
    Session.network, SessionKey.checksummedAddress, named]

/-- A session that also lists what its contract depends on. -/
def listingSession (key : SessionKey) (dependencies : List (String × String)) : Session :=
  { bareSession key with contractData := { externalAddresses := some dependencies } }

/-- What a session lists has no part in its key. -/
theorem key_listingSession {key : SessionKey} (dependencies : List (String × String))
    (named : key.network ≠ "") : (listingSession key dependencies).key = .ok key :=
  key_bareSession named

/-- A session that lists dependencies has a key that can name a directory. -/
theorem isNameable_listingSession {key : SessionKey} (dependencies : List (String × String))
    (supported : Network.isSupported key.network = true) :
    (listingSession key dependencies).IsNameable where
  network := .inr supported
  noSlash := (by decide : '/' ∉ "".toList)
  noNul := (by decide : '\x00' ∉ "".toList)

/-! ## Stores of such sessions -/

namespace MemoryStore

variable {store : MemoryStore} {keyMatch : KeyMatch} {key : SessionKey}

/-- Whether every session is in a directory that is named by the display of its key, which can be
read back from the name. -/
def NamedByDisplays (store : MemoryStore) : Prop :=
  ∀ name session, (name, some session) ∈ store.directories →
    ∃ key, session.key = .ok key ∧ ':' ∉ key.network.toList ∧ name = key.display

/-- A store whose directories have different names, those of the keys of their sessions, is
well-keyed. -/
theorem NamedByDisplays.wellKeyed (named : store.NamedByDisplays)
    (distinct : (names store.directories).Nodup) : WellKeyed store := by
  intro name path complete
  obtain ⟨session, member, rfl⟩ := complete_iff.mp complete
  obtain ⟨key, keyed, plain, rfl⟩ := named name session member
  have held := (find?_eq_some_iff distinct).mpr member
  exact ⟨session, key, none, load_documentPath key.endsPlainly_display held, keyed,
    SessionKey.ofDirectoryName?_display plain⟩

/-- A store with the bare sessions of some keys, each in the directory that is named by its key, is
well-keyed. -/
theorem wellKeyed_bareSessions {keys : List SessionKey}
    (distinct : (keys.map SessionKey.display).Nodup)
    (plain : ∀ key ∈ keys, key.network ≠ "" ∧ ':' ∉ key.network.toList) :
    WellKeyed (MemoryStore.mk keyMatch
      (keys.map fun key => (key.display, some (bareSession key)))) := by
  refine NamedByDisplays.wellKeyed (fun name session member => ?_) ?_
  · obtain ⟨key, isOne, rfl, rfl⟩ : ∃ key ∈ keys,
        key.display = name ∧ bareSession key = session := by
      simpa using member
    exact ⟨key, key_bareSession (plain key isOne).1, (plain key isOne).2, rfl⟩
  · rwa [names, List.map_map]

/-- The store in memory with the bare session of one key. -/
def single (keyMatch : KeyMatch) (key : SessionKey) : MemoryStore :=
  ⟨keyMatch, [(key.display, some (bareSession key))]⟩

/-- A store with one bare session names its directory by the key of the session. -/
theorem wellKeyed_single (named : key.network ≠ "") (plain : ':' ∉ key.network.toList) :
    WellKeyed (single keyMatch key) := by
  have distinct : ([key].map SessionKey.display).Nodup := List.nodup_singleton _
  exact wellKeyed_bareSessions distinct (List.forall_mem_singleton.mpr ⟨named, plain⟩)

/-- The only session that the store shows is the bare one. -/
theorem shows_single_iff {session : Session} :
    SessionStore.Shows (single keyMatch key) session ↔ session = bareSession key := by
  have loads : SessionStore.load (single keyMatch key) (documentPath key.display) =
      .ok (bareSession key) :=
    load_documentPath key.endsPlainly_display (by simp [single, find?])
  have complete (name : String) (path : Path) : Complete (single keyMatch key) name path ↔
      key.display = name ∧ documentPath key.display = path := by
    rw [complete_iff]
    constructor
    · rintro ⟨held, member, rfl⟩
      obtain ⟨rfl, _⟩ : name = key.display ∧ held = bareSession key := by
        simpa [single] using member
      exact ⟨rfl, rfl⟩
    · rintro ⟨rfl, rfl⟩
      exact ⟨bareSession key, List.mem_singleton_self _, rfl⟩
  simp [DirectoryView.shows_iff, complete, loads, eq_comm]

/-- No directory of an empty store is complete. -/
theorem not_complete_empty {name : String} {path : Path} :
    ¬ Complete (MemoryStore.mk keyMatch []) name path := by
  simp [complete_iff]

end MemoryStore

end ContractAtlas

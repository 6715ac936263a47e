import ContractAtlas.Proofs.Store.Enrichment
import ContractAtlas.Proofs.Store.PlacedSessions

/-!
# Mapping in place

A target is found by one rule and its session is saved by another: the query is compared with the
names of the directories as the mode says, and the key of the session exactly. Where every complete
directory is named by the key of its session, and no other directory by the same one
(`NamesKeys`), the two lead to the same directory, in memory and on disk
(`map_target_in_place`).
-/

namespace ContractAtlas

open Json.SortedFields

/-- Whether mapping what a query finds has put the enriched session in place of the session that
was found, and changed nothing else that is listed. -/
structure MappedInPlace {σ : Type} [SessionStore σ] (query : String) (path : Path)
    (session enriched : Session) (store later : σ) : Prop where
  found : SessionStore.find store query = .ok (path, session)
  loaded : SessionStore.load later path = .ok enriched
  documents : SessionStore.documents later = SessionStore.documents store
  others : ∀ paths, SessionStore.documents store = .ok paths → ∀ other ∈ paths, other ≠ path →
    SessionStore.load later other = SessionStore.load store other
  foundLater : SessionStore.find later query = .ok (path, enriched)

/-- A session is mapped in place if the same directories are complete. -/
theorem MappedInPlace.of_complete {σ : Type} [SessionStore σ] [DirectoryView σ] {query : String}
    {path : Path} {session enriched : Session} {store later : σ}
    (found : SessionStore.find store query = .ok (path, session))
    (loaded : SessionStore.load later path = .ok enriched)
    (keyMatch : DirectoryView.keyMatch later = DirectoryView.keyMatch store)
    (complete : DirectoryView.complete later = DirectoryView.complete store)
    (others : ∀ name other, DirectoryView.Complete store name other → other ≠ path →
      SessionStore.load later other = SessionStore.load store other) :
    MappedInPlace query path session enriched store later where
  found := found
  loaded := loaded
  documents := by rw [DirectoryView.documents_eq, DirectoryView.documents_eq, complete]
  others paths listing other member apart := by
    obtain ⟨name, isComplete⟩ := DirectoryView.exists_complete listing member
    exact others name other isComplete apart
  foundLater := by
    have looked := (SessionStore.find_eq_ok_iff.mp found).1
    refine SessionStore.find_eq_ok_iff.mpr ⟨?_, loaded⟩
    rw [DirectoryView.lookup?_eq] at looked ⊢
    rw [complete, keyMatch, looked]

/-- What mapping a target has done when it succeeds: it has found a session, enriched it and saved
it. -/
theorem exists_of_run_mapTarget {σ ω : Type} [SessionStore σ] {reader : ContractReader (StateM ω)}
    {query : String} {store later : σ} {world worldLater : ω} {path : Path}
    {summary : EnrichmentSummary}
    (maps : (mapTarget reader query store).run world =
      ((.ok (path, summary), later), worldLater)) :
    ∃ source session enriched, SessionStore.find store query = .ok (source, session) ∧
      (enrich reader session).run world = (.ok (enriched, summary), worldLater) ∧
      SessionStore.save store enriched = (.ok path, later) := by
  rw [run_mapTarget] at maps
  split at maps
  · cases maps
  · rename_i source session found
    split at maps
    · cases maps
    · rename_i enriched summaryToo worldToo enriches
      obtain ⟨answer, rfl⟩ := Prod.mk.inj (Prod.mk.inj maps).1
      obtain rfl := (Prod.mk.inj maps).2
      rcases saves : SessionStore.save store enriched with ⟨fault | target, saved⟩ <;>
        rw [saves] at answer <;> cases answer
      exact ⟨source, session, enriched, found, enriches, saves⟩

/-- Resolving addresses changes neither the network nor the address of a session. -/
theorem Session.key_withResolved (session : Session) (addresses : List (String × String)) :
    (session.withResolved addresses).key = session.key := rfl

/-! ## In memory -/

namespace MemoryStore

variable {store : MemoryStore} {name : String} {path : Path} {session : Session}

/-- A session is loaded from the directory that its path is in. -/
theorem exists_parent_of_load (loads : store.load path = .ok session) :
    ∃ directory, path.parent? = some directory ∧
      find? directory.text store.directories = some (some session) := by
  unfold load at loads
  split at loads
  · cases loads
  · rename_i directory parent
    split at loads <;> cases loads
    exact ⟨directory, parent, ‹_›⟩

/-- Where names tell keys, what is loaded from the document of a directory is its own session. -/
theorem session?_of_load (namesKeys : NamesKeys store)
    (complete : DirectoryView.Complete store name path) (loads : store.load path = .ok session) :
    path.parent? = some ⟨name⟩ ∧ find? name store.directories = some (some session) := by
  obtain ⟨directory, parent, held⟩ := exists_parent_of_load loads
  obtain ⟨inName, member, rfl⟩ := complete_iff.mp complete
  -- The directory that the path leads back to has the session, so that both names tell its key.
  have back := parent?_documentPath_of_parent? parent
  have completeToo : DirectoryView.Complete store directory.text (documentPath directory.text) :=
    complete_iff.mpr ⟨session, mem_of_find? held, rfl⟩
  have loadsToo : store.load (documentPath directory.text) = .ok session := by
    rw [load, back]
    simp only [held]
  obtain ⟨key, keyed, encoded, _⟩ := namesKeys.named _ _ _ complete loads
  obtain ⟨keyToo, keyedToo, encodedToo, _⟩ := namesKeys.named _ _ _ completeToo loadsToo
  obtain rfl := Except.ok.inj (keyed.symm.trans keyedToo)
  obtain rfl : name = directory.text := namesKeys.alone _ rfl _
    (List.mem_map_of_mem member) _ (List.mem_map_of_mem (mem_of_find? held)) key encoded encodedToo
  exact ⟨parent, held⟩

/-- Where names tell keys, a key goes to the directory that encodes it. -/
theorem directoryFor_eq (namesKeys : NamesKeys store) {key : SessionKey}
    (supported : Network.isSupported key.network = true) (encoded : key.EncodedBy name)
    (listed : name ∈ names store.directories) (contractName : String) :
    store.directoryFor key contractName = name := by
  rw [directoryFor]
  cases found : (names store.directories).find? (KeyMatch.exact.accepts key.display) with
  | none =>
      exact absurd ((KeyMatch.accepts_exact_display supported).mpr encoded)
        (List.find?_eq_none.mp found name listed)
  | some other =>
      exact namesKeys.alone _ rfl _ (List.mem_of_find?_eq_some found) _ listed key
        ((KeyMatch.accepts_exact_display supported).mp (List.find?_some found)) encoded

/-- The complete directories are found in the order of their names. -/
theorem complete_eq (sorted : Sorted store.directories) : DirectoryView.complete store =
    .ok (((names store.directories).filter fun name => (store.session? name).isSome).map
      fun name => (name, documentPath name)) := by
  simp only [DirectoryView.complete, names, List.filter_map, List.map_map, document?,
    Option.map_map]
  refine congrArg Except.ok ?_
  rw [← List.filterMap_eq_map, List.filterMap_filter]
  refine List.filterMap_congr fun directory member => ?_
  simp only [Function.comp_apply, session?_of_mem sorted member]
  cases directory.2 <;> rfl

/-- A session in place of another one leaves the same directories complete. -/
theorem complete_put (sorted : Sorted store.directories) {held : Session}
    (holds : store.session? name = some held) (session : Session) :
    DirectoryView.complete (store.put name (some session)) = DirectoryView.complete store := by
  have listed := mem_names_of_session? holds
  rw [complete_eq sorted, complete_eq (sorted.insert name (some session)),
    names_put sorted listed]
  refine congrArg (fun passes => Except.ok (((names store.directories).filter passes).map _)) ?_
  funext other
  rw [session?_put]
  split
  · rename_i same
    rw [← same, holds]
    rfl
  · rfl

/-- A target is mapped in place in memory. -/
theorem mappedInPlace (sorted : Sorted store.directories) (namesKeys : NamesKeys store)
    {query : String} {enriched : Session} {later : MemoryStore} {saved : Path}
    (found : SessionStore.find store query = .ok (path, session))
    (sameKey : enriched.key = session.key) (saves : store.save enriched = (.ok saved, later)) :
    saved = path ∧ MappedInPlace query path session enriched store later := by
  obtain ⟨looked, loads⟩ := SessionStore.find_eq_ok_iff.mp found
  obtain ⟨name, complete, _⟩ := DirectoryView.exists_complete_of_lookup? looked
  obtain ⟨parent, held⟩ := session?_of_load namesKeys complete loads
  obtain ⟨key, keyed, encoded, supported⟩ := namesKeys.named _ _ _ complete loads
  obtain ⟨_, member, rfl⟩ := complete_iff.mp complete
  have listed : name ∈ names store.directories := List.mem_map_of_mem member
  rw [store.save_of_key (sameKey.trans keyed),
    directoryFor_eq namesKeys supported encoded listed] at saves
  obtain ⟨rfl, rfl⟩ : documentPath name = saved ∧ store.put name (some enriched) = later := by
    simpa using saves
  refine ⟨rfl, .of_complete found ?_ rfl
    (complete_put sorted (by rw [session?, held]; rfl) enriched) fun other path isComplete apart =>
      ?_⟩
  · change load _ _ = _
    rw [load, parent]
    simp [put, find?_insert]
  · change load _ _ = load _ _
    rw [load, load]
    cases parentOther : path.parent? with
    | none => rfl
    | some directory =>
        have elsewhere : name ≠ directory.text := by
          rintro rfl
          have loadsOther : store.load path = .ok session := by
            rw [load, parentOther]
            simp only [held]
          have same := (session?_of_load namesKeys isComplete loadsOther).1
          obtain rfl : directory = ⟨other⟩ := Option.some.inj (parentOther.symm.trans same)
          obtain ⟨_, _, rfl⟩ := complete_iff.mp isComplete
          exact apart rfl
        simp only [put, find?_insert, if_neg elsewhere]

end MemoryStore

/-! ## In a data directory -/

namespace DirectoryStore

variable {store : DirectoryStore} {name : String} {path : Path} {session : Session}

/-- Where names tell keys, a complete directory is the only one for the key of its session. -/
theorem exists_holdsAlone (wellFormed : store.files.WellFormed) (namesKeys : NamesKeys store)
    (complete : DirectoryView.Complete store name path) (loads : store.load path = .ok session) :
    ∃ key, session.key = .ok key ∧ Network.isSupported key.network = true ∧
      store.HoldsAlone key name := by
  obtain ⟨key, keyed, encoded, supported⟩ := namesKeys.named _ _ _ complete loads
  obtain ⟨isName, isFile, _⟩ := (complete_iff wellFormed).mp complete
  refine ⟨key, keyed, supported, isName, isFile, encoded, fun other lists encodedOther => ?_⟩
  obtain ⟨names, listing, member⟩ := lists_of_isFile wellFormed isName isFile
  obtain ⟨namesToo, listingToo, memberOther⟩ := lists
  obtain rfl := Except.ok.inj (listing.symm.trans listingToo)
  exact namesKeys.alone names listing other memberOther name member key encodedOther encoded

/-- A target is mapped in place in a data directory, if what is written is read back. -/
theorem mappedInPlace (wellFormed : store.files.WellFormed) (namesKeys : NamesKeys store)
    {query : String} {enriched : Session} {later : DirectoryStore} {saved : Path}
    (found : SessionStore.find store query = .ok (path, session))
    (sameKey : enriched.key = session.key) (readable : Session.read? enriched.write = some enriched)
    (saves : store.save enriched = (.ok saved, later)) :
    saved = path ∧ MappedInPlace query path session enriched store later ∧
      ∀ paths, SessionStore.documents store = .ok paths → ∀ other ∈ paths, other ≠ path →
        later.files.readBytes other = store.files.readBytes other := by
  obtain ⟨looked, loads⟩ := SessionStore.find_eq_ok_iff.mp found
  obtain ⟨name, complete, _⟩ := DirectoryView.exists_complete_of_lookup? looked
  obtain ⟨key, keyed, supported, holds⟩ := exists_holdsAlone wellFormed namesKeys complete loads
  obtain ⟨isName, isFile, rfl⟩ := (complete_iff wellFormed).mp complete
  obtain ⟨_, made, savesToo, rewrites⟩ | ⟨_, fault, fails⟩ :=
    holds.save_cases wellFormed supported (sameKey.trans keyed)
  · obtain ⟨rfl, rfl⟩ : store.documentPath name = saved ∧ made = later := by
      simpa [savesToo] using saves
    refine ⟨rfl, .of_complete found ?_ rewrites.keyMatch
      (rewrites.complete_eq wellFormed isName isFile) fun other path isComplete apart => ?_,
      fun paths listing path member apart => ?_⟩
    · change load _ _ = _
      simp only [load, rewrites.written, readable]
    · obtain ⟨isNameOther, isFileOther, rfl⟩ := (complete_iff wellFormed).mp isComplete
      exact rewrites.load_eq isNameOther (fun same => apart (same ▸ rfl)) isFileOther
    · obtain ⟨other, isComplete⟩ := DirectoryView.exists_complete listing member
      obtain ⟨isNameOther, isFileOther, rfl⟩ := (complete_iff wellFormed).mp isComplete
      exact rewrites.readBytes_eq isNameOther (fun same => apart (same ▸ rfl)) isFileOther
  · cases fails.symm.trans saves

/-- A session that was loaded from a document is read back when it has been enriched, if its
numbers are integers. -/
theorem read?_write_of_enrich {ω : Type} {reader : ContractReader (StateM ω)} {enriched : Session}
    {summary : EnrichmentSummary} {world worldLater : ω} (loads : store.load path = .ok session)
    (integers : ∀ number ∈ session.toJson.numbers, number.IsInteger)
    (enriches : (enrich reader session).run world = (.ok (enriched, summary), worldLater)) :
    Session.read? enriched.write = some enriched := by
  obtain ⟨addresses, sorted, rfl⟩ := exists_withResolved_of_enrich enriches
  obtain ⟨_, _, read⟩ := exists_read?_of_load loads
  exact Session.read?_write ((Session.asRead_of_read? read).withResolved sorted)
    fun number member => integers number (Session.numbers_withResolved.mp member)

end DirectoryStore

/-- Where the names of directories tell the keys of their sessions, a target that is mapped is
mapped in place: the document that it finds becomes the enriched session, everything else that is
listed stays as it was, and it finds the enriched session afterwards. The sessions in a data
directory must have integers for numbers, so that what is written is read back. -/
theorem map_target_in_place :
    (∀ store : MemoryStore, Sorted store.directories → NamesKeys store →
      ∀ (ω : Type) (reader : ContractReader (StateM ω)) query world path summary later worldLater,
        (mapTarget reader query store).run world = ((.ok (path, summary), later), worldLater) →
        ∃ session enriched,
          (enrich reader session).run world = (.ok (enriched, summary), worldLater) ∧
          MappedInPlace query path session enriched store later) ∧
    ∀ store : DirectoryStore, store.files.WellFormed → NamesKeys store →
      (∀ name path session, DirectoryView.Complete store name path →
        store.load path = .ok session → ∀ number ∈ session.toJson.numbers, number.IsInteger) →
      ∀ (ω : Type) (reader : ContractReader (StateM ω)) query world path summary later worldLater,
        (mapTarget reader query store).run world = ((.ok (path, summary), later), worldLater) →
        ∃ session enriched,
          (enrich reader session).run world = (.ok (enriched, summary), worldLater) ∧
          MappedInPlace query path session enriched store later ∧
          ∀ paths, SessionStore.documents store = .ok paths → ∀ other ∈ paths, other ≠ path →
            later.files.readBytes other = store.files.readBytes other := by
  constructor
  · intro store sorted namesKeys ω reader query world path summary later worldLater maps
    obtain ⟨source, session, enriched, found, enriches, saves⟩ := exists_of_run_mapTarget maps
    obtain ⟨addresses, _, rfl⟩ := exists_withResolved_of_enrich enriches
    obtain ⟨rfl, inPlace⟩ := MemoryStore.mappedInPlace sorted namesKeys found
      (session.key_withResolved addresses) saves
    exact ⟨session, _, enriches, inPlace⟩
  · intro store wellFormed namesKeys integers ω reader query world path summary later worldLater maps
    obtain ⟨source, session, enriched, found, enriches, saves⟩ := exists_of_run_mapTarget maps
    obtain ⟨looked, loads⟩ := SessionStore.find_eq_ok_iff.mp found
    obtain ⟨name, complete, _⟩ := DirectoryView.exists_complete_of_lookup? looked
    have readable := DirectoryStore.read?_write_of_enrich loads
      (integers name source session complete loads) enriches
    obtain ⟨addresses, _, rfl⟩ := exists_withResolved_of_enrich enriches
    obtain ⟨rfl, inPlace, others⟩ := DirectoryStore.mappedInPlace wellFormed namesKeys found
      (session.key_withResolved addresses) readable saves
    exact ⟨session, _, enriches, inPlace, others⟩

/-! ## Mapping succeeds -/

/-- A session with a key can be enriched. -/
theorem exists_enrich_of_key {session : Session} {key : SessionKey} (keyed : session.key = .ok key)
    {ω : Type} (reader : ContractReader (StateM ω)) (world : ω) :
    ∃ enriched summary later,
      (enrich reader session).run world = (.ok (enriched, summary), later) := by
  have contract : session.contract = .ok key.address := by
    rw [Session.contract, Session.parse?_contractAddress keyed]
  rw [enrich, contract]
  exact ⟨_, _, _, rfl⟩

/-- A session that is found is mapped if every session of its key can be saved. -/
theorem exists_run_mapTarget {σ ω : Type} [SessionStore σ] {store : σ} {query : String}
    {path : Path} {session : Session} {key : SessionKey}
    (found : SessionStore.find store query = .ok (path, session)) (keyed : session.key = .ok key)
    (saves : ∀ enriched, Session.key enriched = .ok key →
      ∃ later, SessionStore.save store enriched = (.ok path, later))
    (reader : ContractReader (StateM ω)) (world : ω) :
    ∃ summary later worldLater, (mapTarget reader query store).run world =
      ((.ok (path, summary), later), worldLater) := by
  obtain ⟨enriched, summary, worldLater, enriches⟩ := exists_enrich_of_key keyed reader world
  obtain ⟨addresses, _, rfl⟩ := exists_withResolved_of_enrich enriches
  obtain ⟨later, saved⟩ := saves _ ((session.key_withResolved addresses).trans keyed)
  refine ⟨summary, later, worldLater, ?_⟩
  rw [run_mapTarget, found]
  simp only [enriches, saved]
  rfl

/-- What a target finds in memory is mapped. -/
theorem MemoryStore.exists_run_mapTarget {store : MemoryStore} (namesKeys : NamesKeys store)
    {query : String} {path : Path} {session : Session}
    (found : SessionStore.find store query = .ok (path, session)) {ω : Type}
    (reader : ContractReader (StateM ω)) (world : ω) :
    ∃ summary later worldLater, (mapTarget reader query store).run world =
      ((.ok (path, summary), later), worldLater) := by
  obtain ⟨looked, loads⟩ := SessionStore.find_eq_ok_iff.mp found
  obtain ⟨name, complete, _⟩ := DirectoryView.exists_complete_of_lookup? looked
  obtain ⟨key, keyed, encoded, supported⟩ := namesKeys.named name path session complete loads
  obtain ⟨held, member, rfl⟩ := MemoryStore.complete_iff.mp complete
  refine ContractAtlas.exists_run_mapTarget found keyed (fun enriched keyedToo => ?_) reader world
  have picked := directoryFor_eq namesKeys supported encoded (List.mem_map_of_mem member)
    enriched.contractName
  refine ⟨store.put name (some enriched), ?_⟩
  change store.save enriched = _
  rw [store.save_of_key keyedToo, picked]

/-- What a target finds in a data directory is mapped if its document can be replaced. -/
theorem DirectoryStore.exists_run_mapTarget {store : DirectoryStore}
    (wellFormed : store.files.WellFormed) (namesKeys : NamesKeys store) {query : String}
    {path : Path} {session : Session}
    (found : SessionStore.find store query = .ok (path, session))
    (replaceable : ∀ name, DirectoryView.Complete store name path → store.Replaceable name)
    {ω : Type}
    (reader : ContractReader (StateM ω)) (world : ω) :
    ∃ summary later worldLater, (mapTarget reader query store).run world =
      ((.ok (path, summary), later), worldLater) := by
  obtain ⟨looked, loads⟩ := SessionStore.find_eq_ok_iff.mp found
  obtain ⟨name, complete, _⟩ := DirectoryView.exists_complete_of_lookup? looked
  obtain ⟨key, keyed, supported, holds⟩ := exists_holdsAlone wellFormed namesKeys complete loads
  have isReplaceable := replaceable name complete
  obtain ⟨_, _, rfl⟩ := (complete_iff wellFormed).mp complete
  refine ContractAtlas.exists_run_mapTarget found keyed (fun enriched keyedToo => ?_) reader world
  obtain ⟨_, later, saves, _⟩ | ⟨blocked, _⟩ := holds.save_cases wellFormed supported keyedToo
  · exact ⟨later, saves⟩
  · exact absurd isReplaceable blocked

section

variable {placed : List (String × Session)} {keyMatch : KeyMatch} {one : String × Session}
  {query : String} {ω : Type}

/-- Of the sessions that are placed in a data directory, the one that a query finds is mapped. -/
theorem TellsKeys.exists_run_mapTarget (tells : TellsKeys placed)
    (readable : ∀ one ∈ placed, Session.read? one.2.write = some one.2) (member : one ∈ placed)
    (first : (placed.map Prod.fst).find? (keyMatch.accepts query) = some one.1)
    (reader : ContractReader (StateM ω)) (world : ω) :
    let disk := DirectoryStore.ofDocuments keyMatch (placed.map fun one => (one.1, one.2.write))
    ∃ summary later worldLater, (mapTarget reader query disk).run world =
      ((.ok (disk.documentPath one.1, summary), later), worldLater) := by
  intro disk
  have places := tells.places_ofDocuments keyMatch readable
  refine DirectoryStore.exists_run_mapTarget tells.wellFormed_documentFiles
    (places.namesKeys tells) (places.find_eq member first) (fun name complete => ?_) reader world
  exact tells.replaceable_ofDocuments keyMatch
    (places.exists_of_complete complete (places.loads one member)).1

end

/-- A node that gives the address of the vault for every getter. -/
def vaultReader : ContractReader (StateM Unit) := fun _ _ => pure (.ok vaultKey.address)

/-- The owner of the token is all that there is to resolve. -/
theorem resolved_ownedSession {enriched : Session} {summary : EnrichmentSummary}
    (enriches : (enrich vaultReader ownedSession).run () = (.ok (enriched, summary), ())) :
    summary.externalAddresses = [("owner", "0x1111111111111111111111111111111111111111")] := by
  have computed : ((enrich vaultReader ownedSession).run ()).1.map
      (fun result => result.2.externalAddresses) =
        .ok [("owner", "0x1111111111111111111111111111111111111111")] := by
    decide
  rw [enriches] at computed
  exact Except.ok.inj computed

/-- Of two sessions in memory and in a data directory, the address of the token finds the second
one. Its owner is resolved, and it is mapped in place. -/
theorem map_target_in_place_token :
    let query := "0x2222222222222222222222222222222222222222"
    let memory := MemoryStore.ofPlaced .exact vaultAndToken
    let disk := DirectoryStore.ofDocuments .exact
      (vaultAndToken.map fun one => (one.1, one.2.write))
    (Sorted memory.directories ∧ NamesKeys memory ∧ ∃ path summary later,
      (mapTarget vaultReader query memory).run () = ((.ok (path, summary), later), ()) ∧
      summary.externalAddresses = [("owner", "0x1111111111111111111111111111111111111111")] ∧
      ∃ enriched, (enrich vaultReader ownedSession).run () = (.ok (enriched, summary), ()) ∧
        MappedInPlace query path ownedSession enriched memory later) ∧
    disk.files.WellFormed ∧ NamesKeys disk ∧
    (∀ name path session, DirectoryView.Complete disk name path →
      disk.load path = .ok session → ∀ number ∈ session.toJson.numbers, number.IsInteger) ∧
    ∃ path summary later,
      (mapTarget vaultReader query disk).run () = ((.ok (path, summary), later), ()) ∧
      summary.externalAddresses = [("owner", "0x1111111111111111111111111111111111111111")] ∧
      ∃ enriched, (enrich vaultReader ownedSession).run () = (.ok (enriched, summary), ()) ∧
        MappedInPlace query path ownedSession enriched disk later ∧
        ∀ paths, SessionStore.documents disk = .ok paths → ∀ other ∈ paths, other ≠ path →
          later.files.readBytes other = disk.files.readBytes other := by
  intro query memory disk
  have isToken : (tokenKey.directoryName "Token", ownedSession) ∈ vaultAndToken := by
    simp [vaultAndToken]
  have first := find?_vaultAndToken .exact _ isToken
  refine ⟨?_, ?_⟩
  · have sorted := tellsKeys_vaultAndToken.sorted_ofPlaced .exact
    have places := tellsKeys_vaultAndToken.places_ofPlaced .exact
    have namesKeys := places.namesKeys tellsKeys_vaultAndToken
    have found := places.find_eq isToken first
    obtain ⟨summary, later, ⟨⟩, maps⟩ :=
      MemoryStore.exists_run_mapTarget namesKeys found vaultReader ()
    obtain ⟨session, enriched, enriches, inPlace⟩ :=
      map_target_in_place.1 memory sorted namesKeys _ vaultReader _ _ _ _ _ _ maps
    obtain ⟨_, rfl⟩ := Prod.mk.inj (Except.ok.inj (found.symm.trans inPlace.found))
    exact ⟨sorted, namesKeys, _, summary, later, maps, resolved_ownedSession enriches, enriched,
      enriches, inPlace⟩
  · have wellFormed : disk.files.WellFormed := tellsKeys_vaultAndToken.wellFormed_documentFiles
    have places := tellsKeys_vaultAndToken.places_ofDocuments .exact readable_vaultAndToken
    have namesKeys := places.namesKeys tellsKeys_vaultAndToken
    have integers : ∀ name path session, DirectoryView.Complete disk name path →
        disk.load path = .ok session → ∀ number ∈ session.toJson.numbers, number.IsInteger := by
      intro name path session complete loads
      have placed := (places.exists_of_complete complete loads).1
      obtain ⟨_, rfl⟩ | ⟨_, rfl⟩ : (name = _ ∧ session = vaultSession none) ∨
          (name = _ ∧ session = ownedSession) := by
        simpa [vaultAndToken] using placed
      · exact integers_vaultSession none
      · exact integers_ownedSession
    have found := places.find_eq isToken first
    obtain ⟨summary, later, ⟨⟩, maps⟩ := tellsKeys_vaultAndToken.exists_run_mapTarget
      readable_vaultAndToken isToken first vaultReader ()
    obtain ⟨session, enriched, enriches, inPlace, others⟩ :=
      map_target_in_place.2 disk wellFormed namesKeys integers _ vaultReader _ _ _ _ _ _ maps
    obtain ⟨_, rfl⟩ := Prod.mk.inj (Except.ok.inj (found.symm.trans inPlace.found))
    exact ⟨wellFormed, namesKeys, integers, _, summary, later, maps,
      resolved_ownedSession enriches, enriched, enriches, inPlace, others⟩

end ContractAtlas

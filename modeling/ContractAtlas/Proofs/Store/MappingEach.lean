import ContractAtlas.Proofs.Session.Rewriting
import ContractAtlas.Proofs.Store.Mapping
import ContractAtlas.Proofs.Store.Naming

/-!
# Mapping one after the other

Queries are mapped one after the other, each in the store that the one before has left. No step
changes which directories there are, so every query finds what it would have found at the start, and
the documents that are rewritten at all are known beforehand (`Reached`). When the queries are the
addresses of the sessions that wait to be enriched, none is left waiting exactly if each of them is
what its own address finds, and its document can be replaced (`allEnriched_iff`): a document that no
query finds stays as it is, and there are no more queries than documents to find.
-/

namespace ContractAtlas

/-! ## Steps -/

/-- What mapping a query does to a store, whatever is resolved: nothing unless a session with an
address is found, and then the enriched session is saved. -/
inductive MapsTo {σ : Type} [SessionStore σ] (query : String) (store : σ) : σ → Prop where
  | notFound {fault : StoreError} (missing : SessionStore.find store query = .error fault) :
      MapsTo query store store
  | noAddress {path : Path} {session : Session} {fault : AtlasError}
      (found : SessionStore.find store query = .ok (path, session))
      (invalid : session.contract = .error fault) : MapsTo query store store
  | saved {path : Path} {session : Session}
      (found : SessionStore.find store query = .ok (path, session))
      (addresses : List (String × String)) :
      MapsTo query store (SessionStore.save store (session.withResolved addresses)).2

/-- What mapping several queries one after the other does to a store. -/
inductive MapsEach {σ : Type} [SessionStore σ] : List String → σ → σ → Prop where
  | nil (store : σ) : MapsEach [] store store
  | cons {query : String} {queries : List String} {store next later : σ}
      (first : MapsTo query store next) (rest : MapsEach queries next later) :
      MapsEach (query :: queries) store later

/-! ## Searches that cover what they start from -/

/-- If every pending item is found by a pending one, and none finds an item behind itself, each
finds itself. -/
theorem finds_self_of_covered {α : Type} {items : List α} (distinct : items.Nodup)
    (pending : α → Prop) (finds : α → α → Prop)
    (functional : ∀ item first second, finds item first → finds item second → first = second)
    (early : ∀ before after, items = before ++ after → ∀ item ∈ before, pending item →
      ∀ found, finds item found → found ∈ before)
    (covered : ∀ item ∈ items, pending item → ∃ other ∈ items, pending other ∧ finds other item) :
    ∀ item ∈ items, pending item → finds item item := by
  suffices fromBehind : ∀ after before, items = before ++ after →
      ∀ item ∈ after, pending item → finds item item from fromBehind items [] rfl
  intro after
  -- The induction goes from the end: what finds the last item can only be that item.
  induction after with
  | nil => exact fun _ _ => List.forall_mem_nil _
  | cons item rest inductionHypothesis =>
      intro before split
      have behind := inductionHypothesis (before ++ [item]) (by simp [split])
      refine List.forall_mem_cons.mpr ⟨fun isPending => ?_, behind⟩
      rw [split, List.nodup_append] at distinct
      obtain ⟨_, distinctAfter, apart⟩ := distinct
      obtain ⟨other, member, otherPending, found⟩ :=
        covered item (split ▸ List.mem_append_right before List.mem_cons_self) isPending
      rw [split] at member
      rcases List.mem_append.mp member with inBefore | inAfter
      · have isBefore := early before (item :: rest) split other inBefore otherPending item found
        exact absurd rfl (apart item isBefore item List.mem_cons_self)
      · rcases List.mem_cons.mp inAfter with rfl | inRest
        · exact found
        · obtain rfl := functional other _ _ found (behind other inRest otherPending)
          exact absurd inRest (List.nodup_cons.mp distinctAfter).1

/-! ## Sessions and their keys -/

/-- The key of a session depends on its network part only. -/
theorem Session.key_eq {session other : Session} (same : session.networkInfo = other.networkInfo) :
    session.key = other.key := by
  cases session
  cases other
  cases same
  rfl

/-- The contract of a session is at the address of its key. -/
theorem Session.contract_of_key {session : Session} {key : SessionKey}
    (keyed : session.key = .ok key) : session.contract = .ok key.address := by
  rw [Session.contract, Session.parse?_contractAddress keyed]

namespace DirectoryStore

open FileTree DirectoryView

/-! ## What is rewritten -/

/-- Whether some query finds the document of a directory, and the document can be replaced by what
becomes of its session. -/
structure Reached (store : DirectoryStore) (queries : List String) (name : String) : Prop where
  replaceable : store.Replaceable name
  readable : ∃ session, store.load (store.documentPath name) = .ok session
  found : ∃ query ∈ queries, SessionStore.lookup? store query = some (store.documentPath name)

/-- One more query reaches at most what it finds. -/
theorem Reached.of_append {store : DirectoryStore} {queries : List String} {query name : String}
    (reached : store.Reached (queries ++ [query]) name) :
    store.Reached queries name ∨
      SessionStore.lookup? store query = some (store.documentPath name) := by
  obtain ⟨other, member, found⟩ := reached.found
  rcases List.mem_append.mp member with before | last
  · exact .inl ⟨reached.replaceable, reached.readable, other, before, found⟩
  · exact .inr (List.mem_singleton.mp last ▸ found)

/-- More queries reach no less. -/
theorem Reached.append {store : DirectoryStore} {queries : List String} {name : String}
    (reached : store.Reached queries name) (more : List String) :
    store.Reached (queries ++ more) name where
  replaceable := reached.replaceable
  readable := reached.readable
  found := by
    obtain ⟨query, member, found⟩ := reached.found
    exact ⟨query, List.mem_append_left more member, found⟩

/-- What is left of a store when queries have been mapped: the documents that they reach hold
enriched sessions of the same contracts, and all others are as they were. -/
structure Reworked (store : DirectoryStore) (queries : List String) (later : DirectoryStore) : Prop
    extends SameDirectories store later where
  complete : DirectoryView.complete later = DirectoryView.complete store
  reached : ∀ name path, Complete store name path → store.Reached queries name →
    ∃ before session : Session, store.load path = .ok before ∧
      session.networkInfo = before.networkInfo ∧ session.isEnriched = true ∧
      later.files.readText path = .ok session.write
  others : ∀ name path, Complete store name path → ¬ store.Reached queries name →
    later.files.readBytes path = store.files.readBytes path

/-- Without queries nothing is reworked. -/
theorem Reworked.refl {store : DirectoryStore} (wellFormed : store.files.WellFormed) :
    store.Reworked [] store where
  toSameDirectories := .refl wellFormed
  complete := rfl
  reached _ _ _ isReached := by
    obtain ⟨_, member, _⟩ := isReached.found
    cases member
  others _ _ _ _ := rfl

namespace Reworked

variable {store current later : DirectoryStore} {queries : List String} {query name : String}
  {path : Path}

/-- Queries find the same documents after some of them have been mapped. -/
theorem lookup?_eq (reworked : store.Reworked queries current) (query : String) :
    SessionStore.lookup? current query = SessionStore.lookup? store query := by
  have keyMatch : DirectoryView.keyMatch current = DirectoryView.keyMatch store :=
    reworked.keyMatch
  rw [DirectoryView.lookup?_eq, DirectoryView.lookup?_eq, reworked.complete, keyMatch]

/-- What is loaded is what was there, or an enriched session of the same contract. -/
theorem exists_before_of_load (reworked : store.Reworked queries current)
    (complete : Complete store name path) {session : Session}
    (loads : current.load path = .ok session) :
    ∃ before, store.load path = .ok before ∧ session.networkInfo = before.networkInfo ∧
      (store.Reached queries name → session.isEnriched = true) := by
  by_cases isReached : store.Reached queries name
  · obtain ⟨before, written, loadsBefore, same, enriched, holds⟩ :=
      reworked.reached name path complete isReached
    simp only [load, holds] at loads
    split at loads
    · rename_i again read
      obtain rfl := Except.ok.inj loads
      obtain ⟨sameAgain, keeps⟩ := Session.eq_networkInfo_of_read?_write read
      exact ⟨before, loadsBefore, sameAgain.trans same, fun _ => keeps enriched⟩
    · cases loads
  · have same := load_eq_of_readBytes (reworked.others name path complete isReached)
    exact ⟨session, same ▸ loads, rfl, fun reached => absurd reached isReached⟩

/-- A query that reaches nothing new leaves the store as it is. -/
theorem stays (reworked : store.Reworked queries current)
    (reaches : ∀ name path, Complete store name path → store.Reached (queries ++ [query]) name →
      store.Reached queries name) : store.Reworked (queries ++ [query]) current where
  toSameDirectories := reworked.toSameDirectories
  complete := reworked.complete
  reached name path complete isReached :=
    reworked.reached name path complete (reaches name path complete isReached)
  others name path complete apart :=
    reworked.others name path complete fun isReached => apart (isReached.append [query])

/-- A document that is replaced has been reached, and no other document is new. -/
theorem replaces (reworked : store.Reworked queries current) (wellFormed : store.files.WellFormed)
    (complete : Complete store name path) (looked : SessionStore.lookup? store query = some path)
    (replaceable : store.Replaceable name) {before : Session} (session : Session)
    (loads : store.load path = .ok before) (same : session.networkInfo = before.networkInfo)
    (enriched : session.isEnriched = true)
    (rewrites : Rewrites name session.write current later) :
    store.Reworked (queries ++ [query]) later := by
  obtain ⟨isName, isFile, rfl⟩ := (complete_iff wellFormed).mp complete
  have located := reworked.documentPath_eq
  have completeIn {other : String} {path : Path} (held : Complete store other path) :
      Complete current other path := by
    rwa [Complete, reworked.complete]
  have isFileIn := ((complete_iff reworked.wellFormed).mp (completeIn complete)).2.1
  have isReached : store.Reached (queries ++ [query]) name :=
    ⟨replaceable, ⟨before, loads⟩, query, by simp, looked⟩
  refine ⟨reworked.toSameDirectories.trans rewrites.toSameDirectories,
    (rewrites.complete_eq reworked.wellFormed isName isFileIn).trans reworked.complete, ?_, ?_⟩
  · intro other path held reachedOther
    obtain ⟨isNameOther, _, rfl⟩ := (complete_iff wellFormed).mp held
    by_cases isSame : other = name
    · subst isSame
      exact ⟨before, session, loads, same, enriched, located other ▸ rewrites.written⟩
    · have already : store.Reached queries other := reachedOther.of_append.resolve_right fun found =>
        isSame (store.documentPath_inj isNameOther isName
          (Option.some.inj (found.symm.trans looked)))
      obtain ⟨old, held', loadsOld, sameOld, enrichedOld, holds⟩ :=
        reworked.reached other _ held already
      have isFileOther := ((complete_iff reworked.wellFormed).mp (completeIn held)).2.1
      have bytes := rewrites.readBytes_eq isNameOther isSame isFileOther
      refine ⟨old, held', loadsOld, sameOld, enrichedOld, ?_⟩
      rw [located] at bytes
      rw [← holds, readText, readText, bytes]
  · intro other path held apart
    obtain ⟨isNameOther, _, rfl⟩ := (complete_iff wellFormed).mp held
    have isOther : other ≠ name := by
      rintro rfl
      exact apart isReached
    have isFileOther := ((complete_iff reworked.wellFormed).mp (completeIn held)).2.1
    have bytes := rewrites.readBytes_eq isNameOther isOther isFileOther
    rw [located] at bytes
    exact bytes.trans (reworked.others other _ held fun already => apart (already.append [query]))

/-- A query that finds nothing reaches nothing new. -/
theorem stays_of_missing (reworked : store.Reworked queries current)
    (wellFormed : store.files.WellFormed) {fault : StoreError}
    (missing : SessionStore.find current query = .error fault) :
    store.Reworked (queries ++ [query]) current := by
  refine reworked.stays fun name path complete isReached => ?_
  by_contra notYet
  have looked := isReached.of_append.resolve_left notYet
  obtain ⟨session, loads⟩ := isReached.readable
  obtain ⟨_, _, rfl⟩ := (complete_iff wellFormed).mp complete
  have loadsIn := (load_eq_of_readBytes (reworked.others name _ complete notYet)).trans loads
  have found := SessionStore.find_eq_ok_iff.mpr
    ⟨(reworked.lookup?_eq query).trans looked, loadsIn⟩
  cases missing.symm.trans found

/-- A query that finds what cannot be replaced reaches nothing new. -/
theorem stays_of_blocked (reworked : store.Reworked queries current)
    (wellFormed : store.files.WellFormed) (complete : Complete store name path)
    (looked : SessionStore.lookup? store query = some path) (blocked : ¬ store.Replaceable name) :
    store.Reworked (queries ++ [query]) current := by
  obtain ⟨isName, _, rfl⟩ := (complete_iff wellFormed).mp complete
  refine reworked.stays fun other path held isReached => isReached.of_append.resolve_right ?_
  intro looksOther
  obtain ⟨isNameOther, _, rfl⟩ := (complete_iff wellFormed).mp held
  obtain rfl := store.documentPath_inj isName isNameOther
    (Option.some.inj (looked.symm.trans looksOther))
  exact blocked isReached.replaceable

/-- What a query finds has the key that it had at the start, in the only directory for that key. -/
theorem exists_holdsAlone_of_find (reworked : store.Reworked queries current)
    (wellFormed : store.files.WellFormed) (namesKeys : NamesKeys store) {session : Session}
    (found : SessionStore.find current query = .ok (path, session)) :
    ∃ name before key, SessionStore.lookup? store query = some path ∧ Complete store name path ∧
      store.load path = .ok before ∧ session.networkInfo = before.networkInfo ∧
      session.key = .ok key ∧ Network.isSupported key.network = true ∧
      current.HoldsAlone key name := by
  obtain ⟨looked, loads⟩ := SessionStore.find_eq_ok_iff.mp found
  rw [reworked.lookup?_eq] at looked
  obtain ⟨name, complete, _⟩ := exists_complete_of_lookup? looked
  obtain ⟨before, loadsBefore, same, _⟩ := reworked.exists_before_of_load complete loads
  obtain ⟨key, isKey, supported, holds⟩ :=
    exists_holdsAlone wellFormed namesKeys complete loadsBefore
  have completeIn : Complete current name path := by rwa [Complete, reworked.complete]
  obtain ⟨_, isFile, _⟩ := (complete_iff reworked.wellFormed).mp completeIn
  exact ⟨name, before, key, looked, complete, loadsBefore, same,
    (Session.key_eq same).trans isKey, supported,
    holds.of_sameDirectories wellFormed reworked.toSameDirectories isFile⟩

/-- A query that has been mapped has reached what it finds. -/
theorem step (reworked : store.Reworked queries current) (wellFormed : store.files.WellFormed)
    (namesKeys : NamesKeys store) (maps : MapsTo query current later) :
    store.Reworked (queries ++ [query]) later := by
  cases maps with
  | notFound missing => exact reworked.stays_of_missing wellFormed missing
  | noAddress found invalid =>
      obtain ⟨_, _, _, _, _, _, _, isKey, _⟩ :=
        reworked.exists_holdsAlone_of_find wellFormed namesKeys found
      cases invalid.symm.trans (Session.contract_of_key isKey)
  | @saved path session found addresses =>
      obtain ⟨name, before, key, looked, complete, loads, same, isKey, supported, holds⟩ :=
        reworked.exists_holdsAlone_of_find wellFormed namesKeys found
      change store.Reworked _ (current.save _).2
      obtain ⟨replaceable, next, saves, rewrites⟩ | ⟨blocked, fault, fails⟩ :=
        holds.save_cases reworked.wellFormed supported
          ((session.key_withResolved addresses).trans isKey)
      · rw [saves]
        exact reworked.replaces wellFormed complete looked (reworked.replaceable_iff.mp replaceable)
          (session.withResolved addresses) loads same rfl rewrites
      · rw [fails]
        exact reworked.stays_of_blocked wellFormed complete looked
          fun replaceable => blocked (reworked.replaceable_iff.mpr replaceable)

/-- What queries leave, more queries leave of it too. -/
theorem steps (reworked : store.Reworked queries current) (wellFormed : store.files.WellFormed)
    (namesKeys : NamesKeys store) {more : List String} (maps : MapsEach more current later) :
    store.Reworked (queries ++ more) later := by
  induction maps generalizing queries with
  | nil current => simpa using reworked
  | cons first _ inductionHypothesis =>
      simpa using inductionHypothesis (reworked.step wellFormed namesKeys first)

end Reworked

/-! ## Sessions that wait -/

/-- Whether a directory holds a session that waits to be enriched. -/
structure Waiting (store : DirectoryStore) (name : String) (path : Path) (session : Session) :
    Prop where
  complete : Complete store name path
  loads : store.load path = .ok session
  unresolved : session.isEnriched = false

/-- Whether every session of a store is enriched in a later state of it, and those that were
enriched are as they were. -/
structure AllEnriched (store later : DirectoryStore) : Prop where
  documents : SessionStore.documents later = SessionStore.documents store
  enriched : ∀ session, SessionStore.Shows later session → session.isEnriched = true
  unchanged : ∀ listed, SessionStore.sessions store = .ok listed → ∀ found ∈ listed,
    found.2.isEnriched = true → later.load found.1 = .ok found.2

variable {store later : DirectoryStore} {queries : List String}

/-- The sessions that are listed are those that are loaded from complete directories. -/
theorem mem_sessions_iff {listed : List (Path × Session)}
    (sessions : SessionStore.sessions store = .ok listed) {path : Path} {session : Session} :
    (path, session) ∈ listed ↔
      (∃ name, Complete store name path) ∧ store.load path = .ok session := by
  rw [SessionStore.sessions, DirectoryView.documents_eq] at sessions
  cases complete : DirectoryView.complete store with
  | error fault => simp [complete, Except.map, bind, Except.bind] at sessions
  | ok directories =>
      simp only [complete, Except.map, bind, Except.bind, pure, Except.pure, Except.ok.injEq]
        at sessions
      rw [← sessions, SessionStore.mem_loadable]
      refine and_congr ?_ Iff.rfl
      simp [Complete, complete]

/-- The address of a session finds the document of the session, or one before it. -/
theorem lookup?_before (namesKeys : NamesKeys store) {directories before after : List (String × Path)}
    (complete : DirectoryView.complete store = .ok directories)
    (split : directories = before ++ after) {directory : String × Path} (member : directory ∈ before)
    {session : Session} (loads : store.load directory.2 = .ok session) {path : Path}
    (found : SessionStore.lookup? store session.contractAddress = some path) :
    path ∈ before.map Prod.snd := by
  have held : Complete store directory.1 directory.2 :=
    ⟨directories, complete, split ▸ List.mem_append_left after member⟩
  obtain ⟨key, keyed, encoded, _⟩ := namesKeys.named _ _ _ held loads
  have accepted := (DirectoryView.keyMatch store).accepts_of_encodedBy
    (Session.parse?_contractAddress keyed) encoded
  rw [DirectoryView.lookup?_eq, complete, split] at found
  simp only [List.find?_append] at found
  cases isFirst : before.find? fun directory =>
      (DirectoryView.keyMatch store).accepts session.contractAddress directory.1 with
  | none => exact absurd accepted (List.find?_eq_none.mp isFirst directory member)
  | some first =>
      rw [isFirst, Option.some_or, Option.map_some, Option.some.injEq] at found
      rw [← found]
      exact List.mem_map_of_mem (List.mem_of_find?_eq_some isFirst)

/-- Whether a session that waits in a document has an address that finds some document. -/
def Finds (store : DirectoryStore) (path found : Path) : Prop :=
  ∃ name session, store.Waiting name path session ∧
    SessionStore.lookup? store session.contractAddress = some found

/-- A session finds one document at most. -/
theorem Finds.unique {path first second : Path} (finds : store.Finds path first)
    (findsToo : store.Finds path second) : first = second := by
  obtain ⟨_, session, waiting, looked⟩ := finds
  obtain ⟨_, other, waitingToo, lookedToo⟩ := findsToo
  obtain rfl := Except.ok.inj (waiting.loads.symm.trans waitingToo.loads)
  exact Option.some.inj (looked.symm.trans lookedToo)

/-- If the document of every session that waits is found by such a session, it is found by its own.
-/
theorem lookup?_of_covered (wellFormed : store.files.WellFormed) (namesKeys : NamesKeys store)
    (covered : ∀ name path session, store.Waiting name path session → ∃ other, store.Finds other path)
    {name : String} {path : Path} {session : Session} (waiting : store.Waiting name path session) :
    SessionStore.lookup? store session.contractAddress = some path := by
  obtain ⟨directories, complete, member⟩ := waiting.complete
  have self : store.Finds path path := by
    refine finds_self_of_covered (nodup_documents wellFormed complete)
      (fun path => ∃ name session, store.Waiting name path session) store.Finds
      (fun _ _ _ => Finds.unique) ?_ ?_ path (List.mem_map_of_mem member) ⟨name, session, waiting⟩
    · rintro before after split item inBefore - found ⟨_, held, waitingItem, looked⟩
      obtain ⟨first, later, rfl, rfl, rfl⟩ := List.map_eq_append_iff.mp split
      obtain ⟨directory, inFirst, rfl⟩ := List.mem_map.mp inBefore
      exact lookup?_before namesKeys complete rfl inFirst waitingItem.loads looked
    · rintro item - ⟨itemName, held, waitingItem⟩
      obtain ⟨other, otherName, otherSession, waitingOther, looked⟩ :=
        covered itemName item held waitingItem
      obtain ⟨named, completeToo, inNamed⟩ := waitingOther.complete
      obtain rfl := Except.ok.inj (complete.symm.trans completeToo)
      exact ⟨other, List.mem_map_of_mem inNamed, ⟨otherName, otherSession, waitingOther⟩,
        otherName, otherSession, waitingOther, looked⟩
  obtain ⟨_, held, waitingHeld, looked⟩ := self
  obtain rfl := Except.ok.inj (waiting.loads.symm.trans waitingHeld.loads)
  exact looked

/-- A document that no query reaches is loaded as before. -/
theorem Reworked.load_eq (reworked : store.Reworked queries later) {name : String} {path : Path}
    (complete : Complete store name path) (apart : ¬ store.Reached queries name) :
    later.load path = store.load path :=
  load_eq_of_readBytes (reworked.others name path complete apart)

/-- In a store in which nothing has been rewritten, the same sessions wait. -/
theorem Reworked.waiting_iff (reworked : store.Reworked [] later) {name : String} {path : Path}
    {session : Session} : later.Waiting name path session ↔ store.Waiting name path session := by
  have apart : ¬ store.Reached [] name := by
    rintro ⟨_, _, query, member, _⟩
    cases member
  have completeIff : Complete later name path ↔ Complete store name path := by
    rw [Complete, reworked.complete]
    rfl
  constructor
  · rintro ⟨complete, loads, unresolved⟩
    have complete := completeIff.mp complete
    exact ⟨complete, (reworked.load_eq complete apart).symm.trans loads, unresolved⟩
  · rintro ⟨complete, loads, unresolved⟩
    exact ⟨completeIff.mpr complete, (reworked.load_eq complete apart).trans loads, unresolved⟩

section

variable (reworked : store.Reworked queries later) (wellFormed : store.files.WellFormed)
  (addresses : ∀ query, query ∈ queries ↔
    ∃ name path session, store.Waiting name path session ∧ session.contractAddress = query)

include reworked

/-- If no session waits any more, every one that did has been reached. -/
theorem Reworked.reached_of_waiting (all : store.AllEnriched later) {name : String} {path : Path}
    {session : Session} (waiting : store.Waiting name path session) :
    store.Reached queries name := by
  by_contra apart
  have complete : Complete later name path := by
    rw [Complete, reworked.complete]
    exact waiting.complete
  have loads := (reworked.load_eq waiting.complete apart).trans waiting.loads
  have shows : SessionStore.Shows later session :=
    DirectoryView.shows_iff.mpr ⟨name, path, complete, loads⟩
  exact Bool.false_ne_true (waiting.unresolved.symm.trans (all.enriched session shows))

include wellFormed addresses

/-- If the address of every session that waits finds the session, in a document that can be
replaced, no other is reached and none waits any more. -/
theorem Reworked.allEnriched_of_self (each : ∀ name path session,
    store.Waiting name path session → SessionStore.lookup? store session.contractAddress = some path ∧
      store.Replaceable name) : store.AllEnriched later where
  documents := by rw [DirectoryView.documents_eq, DirectoryView.documents_eq, reworked.complete]
  enriched session shows := by
    obtain ⟨name, path, complete, loads⟩ := DirectoryView.shows_iff.mp shows
    rw [Complete, reworked.complete] at complete
    by_cases isReached : store.Reached queries name
    · obtain ⟨_, _, _, enriched⟩ := reworked.exists_before_of_load complete loads
      exact enriched isReached
    · by_contra unresolved
      have loadsBefore := (reworked.load_eq complete isReached).symm.trans loads
      have waiting : store.Waiting name path session :=
        ⟨complete, loadsBefore, Bool.eq_false_of_not_eq_true unresolved⟩
      obtain ⟨looked, replaceable⟩ := each name path session waiting
      obtain ⟨_, _, rfl⟩ := (complete_iff wellFormed).mp complete
      exact isReached ⟨replaceable, ⟨session, loadsBefore⟩, _,
        (addresses _).mpr ⟨name, _, session, waiting, rfl⟩, looked⟩
  unchanged listed sessions := by
    rintro ⟨path, session⟩ member enriched
    obtain ⟨⟨name, complete⟩, loads⟩ := (mem_sessions_iff sessions).mp member
    refine (reworked.load_eq complete fun isReached => ?_).trans loads
    obtain ⟨query, inQueries, looked⟩ := isReached.found
    obtain ⟨other, otherPath, otherSession, waiting, rfl⟩ := (addresses query).mp inQueries
    obtain ⟨_, _, rfl⟩ := (complete_iff wellFormed).mp complete
    obtain rfl := Option.some.inj ((each other otherPath otherSession waiting).1.symm.trans looked)
    obtain rfl := Except.ok.inj (waiting.loads.symm.trans loads)
    exact Bool.false_ne_true (waiting.unresolved.symm.trans enriched)

/-- Once the addresses of the sessions that wait have been mapped, none waits exactly if each was
what its own address finds, in a document that can be replaced. -/
theorem Reworked.allEnriched_iff (namesKeys : NamesKeys store) :
    store.AllEnriched later ↔ ∀ name path session, store.Waiting name path session →
      SessionStore.lookup? store session.contractAddress = some path ∧ store.Replaceable name := by
  refine ⟨fun all name path session waiting => ?_,
    reworked.allEnriched_of_self wellFormed addresses⟩
  refine ⟨lookup?_of_covered wellFormed namesKeys (fun name path session waiting => ?_) waiting,
    (reworked.reached_of_waiting all waiting).replaceable⟩
  obtain ⟨query, inQueries, looked⟩ := (reworked.reached_of_waiting all waiting).found
  obtain ⟨other, otherPath, otherSession, waitingOther, rfl⟩ := (addresses query).mp inQueries
  obtain ⟨_, _, rfl⟩ := (complete_iff wellFormed).mp waiting.complete
  exact ⟨otherPath, other, otherSession, waitingOther, looked⟩

end

end DirectoryStore

end ContractAtlas

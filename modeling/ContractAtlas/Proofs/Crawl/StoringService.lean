import ContractAtlas.Proofs.Crawl.Handover
import ContractAtlas.Proofs.Store.Addition
import ContractAtlas.Proofs.Store.BareSessions

/-!
# Services that store what they are asked for

The laws of a crawl assume things of a service. Two small ones meet them: `storingService` stores a
session without dependencies for every request, and `corpusService` one that lists what a table has
for the contract. Whatever the table says, the second one only adds to a tidy store
(`adds_of_corpusService`).
-/

namespace ContractAtlas

namespace Crawl

/-- A service that stores and returns a bare session for every request. -/
def storingService : Dispatcher (StateM Unit) MemoryStore := fun request store =>
  let session := bareSession request.key
  return (.ok (some session), (store.save session).2)

/-- A service that stores and returns, for every request on a supported network, a session with the
dependencies that a table has for the contract. -/
def corpusService (corpus : SessionKey → List (String × String)) :
    Dispatcher (StateM Unit) MemoryStore := fun request store =>
  if Network.isSupported request.key.network then
    let session := listingSession request.key (corpus request.key)
    return (.ok (some session), (store.save session).2)
  else
    return (.ok none, store)

section

variable (corpus : SessionKey → List (String × String)) (request : Request) {store : MemoryStore}

/-- What the service stores for a request on a supported network adds to a tidy store in which the
address finds nothing. -/
theorem adds_of_isSupported (tidy : store.Tidy)
    (supported : Network.isSupported request.key.network = true)
    (absent : isStored store request.key.checksummedAddress = false) :
    DirectoryView.Adds request.key store
      (store.save (listingSession request.key (corpus request.key))).2 :=
  tidy.adds_of_save (isNameable_listingSession _ supported)
    (key_listingSession _ (Network.plain_of_isSupported supported).1)
    (by simpa [isStored] using absent)

/-- The service keeps a store tidy. -/
theorem tidy_of_corpusService (tidy : store.Tidy) (world : Unit) :
    (((corpusService corpus request store).run world).1.2).Tidy := by
  rw [corpusService]
  split
  · rename_i supported
    exact tidy.save (isNameable_listingSession _ supported)
      (key_listingSession _ (Network.plain_of_isSupported supported).1)
  · exact tidy

end

/-- In a crawl over a tidy store every request on a supported network adds a session with the key
that was asked for, and the others leave the store as it is. -/
theorem adds_of_corpusService (corpus : SessionKey → List (String × String)) (limit : Nat)
    (level : Level) (target : Option String) {store : MemoryStore} (tidy : store.Tidy) :
    ∀ exchange ∈ (recordedCrawl (corpusService corpus) () limit level target store).history,
      if Network.isSupported exchange.request.key.network then
        DirectoryView.Adds exchange.request.key exchange.before exchange.after
      else exchange.after = exchange.before := by
  intro exchange sent
  have served : ∀ exchange ∈
      (recordedCrawl (corpusService corpus) () limit level target store).history,
      exchange.before.Tidy ∧
        exchange.after = ((corpusService corpus exchange.request exchange.before).run ()).1.2 :=
    forall_history_recordedCrawl (corpusService corpus)
      (fun request before world (kept : before.Tidy) =>
        ⟨⟨kept, rfl⟩, tidy_of_corpusService corpus request kept world⟩)
      () limit level target store tidy
  have absent := (exchange_of_mem_history _ () limit level target store sent).2
  obtain ⟨tidyBefore, after_eq⟩ := served exchange sent
  rw [after_eq, corpusService]
  split
  · rename_i supported
    exact adds_of_isSupported corpus _ tidyBefore supported absent
  · rfl

/-! ## A vault, its token and its registry -/

/-- The vault depends on the registry and the token, the registry on the token, and the token on the
vault, which mints it, and on the zero address. -/
def vaultCorpus (key : SessionKey) : List (String × String) :=
  if key = vaultKey then
    [("registry", "0x3333333333333333333333333333333333333333"),
      ("token", "0x2222222222222222222222222222222222222222")]
  else if key = tokenKey then
    [("burner", "0x0000000000000000000000000000000000000000"),
      ("minter", "0x1111111111111111111111111111111111111111")]
  else if key = registryKey then
    [("token", "0x2222222222222222222222222222222222222222")]
  else []

/-- A store with the session of the registry alone. -/
def registryStore : MemoryStore :=
  ⟨.exact, [("mainet:0x3333333333333333333333333333333333333333",
    some (listingSession registryKey (vaultCorpus registryKey)))]⟩

/-- The store of the registry has one directory, under a name that a directory can have. -/
theorem tidy_registryStore : registryStore.Tidy where
  exact := rfl
  sorted := List.pairwise_singleton _ _
  areNames := by
    intro name listed
    obtain rfl := List.mem_singleton.mp listed
    decide +kernel

/-- Its directory is named by the key of its session. -/
theorem wellKeyed_registryStore : DirectoryView.WellKeyed registryStore := by
  refine MemoryStore.NamedByDisplays.wellKeyed (fun name session member => ?_)
    (List.nodup_singleton _)
  obtain ⟨rfl, rfl⟩ : name = _ ∧ session = _ := by simpa [registryStore] using member
  exact ⟨registryKey, key_listingSession _ (by decide), by decide, by decide +kernel⟩

/-- A crawl of the vault over the store of the registry sends the vault, and then the token. The
store then finds and lists all three. -/
theorem crawl_registryStore :
    let outcome := recordedCrawl (corpusService vaultCorpus) () 2 .unbounded
      (some "mainet:0x1111111111111111111111111111111111111111") registryStore
    (∃ report, outcome.ending = .finished report) ∧
      outcome.dispatchedKeys = [vaultKey, tokenKey] ∧
      ∃ listed, SessionStore.sessions outcome.store = .ok listed ∧
        ∀ key ∈ [vaultKey, tokenKey, registryKey],
          isStored outcome.store key.checksummedAddress = true ∧
          ∃ session ∈ listed.map Prod.snd,
            session.key = .ok key ∧ session.externalAddresses = vaultCorpus key := by
  intro outcome
  -- All that is computed of the crawl is computed at once.
  obtain ⟨reported, sent, stored, sessions_eq⟩ : outcome.ending.report?.isSome = true ∧
      outcome.dispatchedKeys = [vaultKey, tokenKey] ∧
      (∀ key ∈ [vaultKey, tokenKey, registryKey],
        isStored outcome.store key.checksummedAddress = true) ∧
      (SessionStore.sessions outcome.store).map (List.map fun document =>
        (document.2.key, document.2.externalAddresses)) =
        .ok ([vaultKey, tokenKey, registryKey].map fun key => (.ok key, vaultCorpus key)) := by
    decide +kernel
  obtain ⟨report, ended⟩ := Option.isSome_iff_exists.mp reported
  refine ⟨⟨report, Ending.report?_eq_some_iff.mp ended⟩, sent, ?_⟩
  cases listing : SessionStore.sessions outcome.store with
  | error _ => simp [listing, Except.map] at sessions_eq
  | ok listed =>
      rw [listing] at sessions_eq
      refine ⟨listed, rfl, fun key member => ⟨stored key member, ?_⟩⟩
      have described : (.ok key, vaultCorpus key) ∈
          listed.map fun document => (document.2.key, document.2.externalAddresses) := by
        rw [Except.ok.inj sessions_eq]
        exact List.mem_map_of_mem member
      obtain ⟨document, isListed, same⟩ := List.mem_map.mp described
      obtain ⟨keyed, lists⟩ := Prod.mk.inj same
      exact ⟨document.2, List.mem_map_of_mem isListed, keyed, lists⟩

end Crawl

end ContractAtlas

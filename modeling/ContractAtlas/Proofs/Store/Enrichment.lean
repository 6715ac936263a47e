import ContractAtlas.Proofs.Session.Preservation
import ContractAtlas.Proofs.Store.Mirror

/-!
# Enriched documents in a data directory

A document is loaded, the session enriched and saved. The saved document keeps every field of the
loaded one but those of the network part that have no declared name: the network part is the only
part that does not preserve the fields that it does not know.
-/

namespace ContractAtlas

open Json Json.SortedFields

/-- Mapping a target finds, enriches and saves a session, and the first of these that fails ends
it. -/
theorem run_mapTarget {σ ω : Type} [SessionStore σ] (reader : ContractReader (StateM ω))
    (query : String) (store : σ) (world : ω) :
    (mapTarget reader query store).run world =
      match SessionStore.find store query with
      | .error fault => ((.error (.store fault), store), world)
      | .ok (_, session) =>
          match (enrich reader session).run world with
          | (.error fault, world) => ((.error fault, store), world)
          | (.ok (enriched, summary), world) =>
              ((((SessionStore.save store enriched).1.mapError .store).map fun path =>
                (path, summary), (SessionStore.save store enriched).2), world) := by
  unfold mapTarget
  cases SessionStore.find store query with
  | error fault => rfl
  | ok found =>
      simp only [StateT.run_bind]
      rcases (enrich reader found.2).run world with ⟨_ | ⟨enriched, summary⟩, later⟩ <;> rfl

namespace DirectoryStore

/-- A document that has been loaded, enriched and saved keeps its fields exactly if every field of
its network part has a declared name. All others are kept in any case. -/
theorem enriched_document_keeps_iff {ω : Type} {reader : ContractReader (StateM ω)}
    {world worldLater : ω} {store later : DirectoryStore} (rooted : store.files.Rooted)
    {source path : Path} {text : String} {before : List (String × Json)}
    {session enriched : Session} {summary : EnrichmentSummary}
    (reads : store.files.readText source = .ok text)
    (document : Json.read? text = some (.object before))
    (integers : ∀ number ∈ (Json.object before).numbers, number.IsInteger)
    (loads : store.load source = .ok session)
    (enriches : (enrich reader session).run world = (.ok (enriched, summary), worldLater))
    (saves : store.save enriched = (.ok path, later)) :
    ∃ written after, later.files.readText path = .ok written ∧
      Json.read? written = some (.object after) ∧
      Session.Keeps (fun name => NetworkInfo.declaredName? name = none) before after ∧
      (Session.Keeps (fun _ => False) before after ↔
        ∀ fields, find? "network_info" before = some (.object fields) →
          ∀ name ∈ names fields, (NetworkInfo.declaredName? name).isSome = true) := by
  have read : Session.read? text = some session := by
    rw [load, reads] at loads
    simp only at loads
    split at loads
    · rename_i readSession
      rw [readSession, Except.ok.inj loads]
    · cases loads
  obtain ⟨addresses, sorted, rfl⟩ := exists_withResolved_of_enrich enriches
  obtain ⟨after, readsBack, keeps⟩ := Session.exists_keeps_write document integers read sorted
  exact ⟨_, after, readText_of_save rooted saves, readsBack, keeps, Session.keeps_all_iff keeps⟩

/-- A store without sessions, and a document beside it. -/
def besideDocument (text : String) : DirectoryStore where
  directory := ⟨⟨"/"⟩⟩
  keyMatch := .exact
  files := { entries := [(["sessions"], .directory), (["document"], .file text.toUTF8)] }

/-- There is no session in the data directory yet. -/
theorem isEmpty_besideDocument (text : String) : IsEmpty ["sessions"] (besideDocument text) :=
  .of_root rfl rfl fun rest nonempty => by simp [besideDocument, FileTree.entryAt?, nonempty]

/-- Everything in the tree stands in a directory. -/
theorem rooted_besideDocument (text : String) : (besideDocument text).files.Rooted := by
  intro place name stands
  cases place with
  | nil => rfl
  | cons first later =>
      refine absurd ?_ stands
      simp [besideDocument, FileTree.entryAt?]

/-- The document beside the data directory has the text that was given. -/
theorem readText_besideDocument (text : String) :
    (besideDocument text).files.readText ⟨"/document"⟩ = .ok text :=
  FileTree.readText_of_entry (by decide)
    (FileTree.resolve_of_component _ "document" (by decide) (by decide) (by decide) (by decide))
    rfl

/-- A session in the document beside the store can be enriched and saved. -/
theorem exists_enriched_document (text network contractName : String)
    (evaluated : (Session.read? text).any (fun session =>
      (Address.parse? session.contractAddress).isSome && session.effectiveNetwork = network &&
        session.contractName = contractName &&
        decide (∀ number ∈ session.toJson.numbers, number.IsInteger)) = true)
    (isDirectoryName : ∀ address,
      IsDirectoryName (SessionKey.directoryName ⟨network, address⟩ contractName))
    (reader : ContractReader (StateM Unit)) :
    ∃ session enriched summary path later,
      (besideDocument text).load ⟨"/document"⟩ = .ok session ∧
      (enrich reader session).run () = (.ok (enriched, summary), ()) ∧
      (besideDocument text).save enriched = (.ok path, later) := by
  obtain ⟨session, read, facts⟩ := (Option.any_eq_true ..).mp evaluated
  simp only [Bool.and_eq_true, decide_eq_true_eq] at facts
  obtain ⟨⟨⟨hasAddress, rfl⟩, rfl⟩, integers⟩ := facts
  obtain ⟨address, parsed⟩ := Option.isSome_iff_exists.mp hasAddress
  have contract : session.contract = .ok address := by
    rw [Session.contract, parsed]
  have sorted := sorted_resolve reader address (ProbeSet.ofVariables session.stateVariables) ()
  generalize resolved : (((resolve reader address
    (ProbeSet.ofVariables session.stateVariables)).run ()).1) = addresses at sorted
  have readable := Session.read?_write ((Session.asRead_of_read? read).withResolved sorted)
    fun number member => integers number (Session.numbers_withResolved.mp member)
  have keyed : (session.withResolved addresses).key = .ok ⟨session.effectiveNetwork, address⟩ := by
    have same : (session.withResolved addresses).contractAddress = session.contractAddress := rfl
    rw [Session.key, same, parsed]
    rfl
  obtain ⟨later, saved, _⟩ :=
    (isEmpty_besideDocument text).mirrors.save keyed (isDirectoryName address) readable
  refine ⟨session, _, session.summary addresses, _, later,
    by simp only [load, readText_besideDocument, read], ?_, saved⟩
  rw [enrich, contract, ← resolved]
  rfl

/-- The directory of an address on the default network can have a name, whatever plain and short
name the contract has. -/
theorem isDirectoryName_default {contractName : String} (noSlash : '/' ∉ contractName.toList)
    (noNul : '\x00' ∉ contractName.toList) (short : contractName.utf8ByteSize <= 200)
    (address : Address) :
    IsDirectoryName (SessionKey.directoryName ⟨Network.defaultName, address⟩ contractName) := by
  have plain : '/' ∉ Network.defaultName.toList ∧ '\x00' ∉ Network.defaultName.toList := by decide
  have size : Network.defaultName.utf8ByteSize + 44 + 200 <= FileTree.nameLimit := by decide
  exact SessionKey.isDirectoryName_directoryName
    (SessionKey.isName_directoryName plain.1 plain.2 noSlash noNul)
    (le_trans (Nat.add_le_add_left short _) size)

/-- A document with aliases in the network part, and with fields of its own in every other part. -/
theorem enriched_document_keeps_iff_aliased :
    let text := "\x7b\"network_info\":\x7b\"Address\":" ++
      "\"0x1111111111111111111111111111111111111111\",\"ContractName\":\"Vault\"," ++
      "\"LastChecked\":null\x7d,\"contract_data\":\x7b\"compiler\":8\x7d,\"variables_data\":" ++
      "[\x7b\"variable_name\":\"owner\",\"slot\":[0]\x7d],\"audit\":-0\x7d"
    let reader : ContractReader (StateM Unit) := fun contract getter =>
      pure (.error ⟨contract, getter, .reverted⟩)
    ∃ before session enriched summary path later,
      ((besideDocument text).files.Rooted ∧
        (besideDocument text).files.readText ⟨"/document"⟩ = .ok text ∧
        Json.read? text = some (.object before) ∧
        (∀ number ∈ (Json.object before).numbers, number.IsInteger) ∧
        (besideDocument text).load ⟨"/document"⟩ = .ok session ∧
        (enrich reader session).run () = (.ok (enriched, summary), ()) ∧
        (besideDocument text).save enriched = (.ok path, later)) ∧
      ∃ written after, later.files.readText path = .ok written ∧
        Json.read? written = some (.object after) ∧
        Session.Keeps (fun name => NetworkInfo.declaredName? name = none) before after ∧
        (Session.Keeps (fun _ => False) before after ↔
          ∀ fields, find? "network_info" before = some (.object fields) →
            ∀ name ∈ names fields, (NetworkInfo.declaredName? name).isSome = true) := by
  intro text reader
  have evaluated : (Json.read? text).any (fun value =>
      match value with
      | .object before => decide (∀ number ∈ (Json.object before).numbers, number.IsInteger)
      | _ => false) = true := by decide +kernel
  obtain ⟨value, document, facts⟩ := (Option.any_eq_true ..).mp evaluated
  obtain ⟨session, enriched, summary, path, later, loads, enriches, saves⟩ :=
    exists_enriched_document text Network.defaultName "Vault" (by decide +kernel)
      (isDirectoryName_default (by decide) (by decide) (by decide)) reader
  cases value with
  | object before =>
      have integers := of_decide_eq_true facts
      have rooted := rooted_besideDocument text
      have reads := readText_besideDocument text
      exact ⟨before, session, enriched, summary, path, later,
        ⟨rooted, reads, document, integers, loads, enriches, saves⟩,
        enriched_document_keeps_iff rooted reads document integers loads enriches saves⟩
  | _ => cases facts

/-- A field of the network part without a declared name is lost. -/
theorem enriched_document_forgets_compiler :
    ¬ ∀ (text : String) (reader : ContractReader (StateM Unit))
        (before : List (String × Json)) (session enriched : Session) (summary : EnrichmentSummary)
        (path : Path) (later : DirectoryStore),
      Json.read? text = some (.object before) →
      (∀ number ∈ (Json.object before).numbers, number.IsInteger) →
      (besideDocument text).load ⟨"/document"⟩ = .ok session →
      (enrich reader session).run () = (.ok (enriched, summary), ()) →
      (besideDocument text).save enriched = (.ok path, later) →
      ∃ written after, later.files.readText path = .ok written ∧
        Json.read? written = some (.object after) ∧
        Session.Keeps (fun _ => False) before after := by
  intro keepsAll
  let text := "\x7b\"network_info\":\x7b\"contract_address\":" ++
    "\"0x1111111111111111111111111111111111111111\",\"compiler\":\"v0.8.19\"\x7d\x7d"
  let reader : ContractReader (StateM Unit) := fun contract getter =>
    pure (.error ⟨contract, getter, .reverted⟩)
  have evaluated : (Json.read? text).any (fun value =>
      match value with
      | .object before => decide (∀ number ∈ (Json.object before).numbers, number.IsInteger) &&
          (find? "network_info" before).any fun info =>
            match info with
            | .object fields => (find? "compiler" fields).isSome
            | _ => false
      | _ => false) = true := by decide +kernel
  obtain ⟨value, document, facts⟩ := (Option.any_eq_true ..).mp evaluated
  obtain ⟨session, enriched, summary, path, later, loads, enriches, saves⟩ :=
    exists_enriched_document text Network.defaultName "" (by decide +kernel)
      (isDirectoryName_default (by decide) (by decide) (by decide)) reader
  cases value with
  | object before =>
      obtain ⟨integers, present⟩ := Bool.and_eq_true_iff.mp facts
      obtain ⟨info, found, hasCompiler⟩ := (Option.any_eq_true ..).mp present
      obtain ⟨_, after, _, _, keeps⟩ := keepsAll text reader before session enriched summary path
        later document (of_decide_eq_true integers) loads enriches saves
      obtain ⟨kept, _, keepsInfo⟩ := keeps.network info found
      cases info with
      | object fields =>
          obtain ⟨compiler, held⟩ := Option.isSome_iff_exists.mp hasCompiler
          obtain ⟨declared, isDeclared, _⟩ := keepsInfo "compiler" compiler held id
          have undeclared : NetworkInfo.declaredName? "compiler" = none := by decide
          cases undeclared.symm.trans isDeclared
      | _ => cases hasCompiler
  | _ => cases facts

end DirectoryStore

end ContractAtlas

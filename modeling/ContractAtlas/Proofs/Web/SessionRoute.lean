import ContractAtlas.Proofs.Json.CompactText
import ContractAtlas.Proofs.Session.Reading
import ContractAtlas.Proofs.Store.Documents
import ContractAtlas.Web.Api

/-!
# The route of a session

A store fails to find a session only in ways that mean that there is none: no directory matches, or
the document of the first one that does cannot be loaded. So the route has three answers, and the
one for a fault of the server is never given (`sessionData_eq`, `respond_session`).
-/

namespace ContractAtlas

open Json Text

/-- A session that was read from some text, and whose numbers are integers, is read from its compact
text. -/
theorem Session.read?_toCompactText {session : Session}
    (asRead : AsRead Written.nestingLimit session)
    (integers : ∀ number ∈ session.toJson.numbers, number.IsInteger) :
    read? session.toJson.toCompactText = some session := by
  rw [read?, Written.read?_toCompactText integers]
  exact ofWritten?_toJson asRead

namespace DirectoryStore

variable {store : DirectoryStore}

/-- A document that cannot be loaded counts as absent, whatever is the matter with it. -/
theorem isAbsent_of_load {path : Path} {fault : StoreError}
    (failed : store.load path = .error fault) : fault.isAbsent = true := by
  rw [load] at failed
  split at failed
  · cases failed
    rfl
  · split at failed <;> cases failed
    rfl

/-- A session that is not found is absent. No fault of another kind can come up. -/
theorem isAbsent_of_find {query : String} {fault : StoreError}
    (failed : SessionStore.find store query = .error fault) : fault.isAbsent = true := by
  obtain ⟨_, rfl⟩ | ⟨_, _, rejected⟩ := find_eq_error_iff.mp failed
  · rfl
  · exact isAbsent_of_load rejected

/-- The empty query finds nothing. -/
theorem find_empty : SessionStore.find store "" = .error (.sessionNotFound "") := by
  have nothing : SessionStore.lookup? store "" = none := by
    have rejects (name : String) : store.keyMatch.accepts "" name = false := by
      have blank : trim "" = "" := by decide
      simp [KeyMatch.accepts, blank]
    rw [← Option.not_isSome_iff_eq_none, lookup?_isSome_iff_isFile]
    rintro ⟨name, ⟨_, _, _, accepted⟩, _⟩
    cases (rejects name).symm.trans accepted
  exact find_eq_error_iff.mpr (.inl ⟨nothing, rfl⟩)

end DirectoryStore

namespace Web.Api

variable {store : DirectoryStore}

/-- The three answers of the route. -/
theorem sessionData_eq (store : DirectoryStore) (value : String) :
    sessionData store value =
      if trim value = "" then .fault 400 "empty_path"
      else
        match SessionStore.find store (trim value) with
        | .ok (_, session) => .ok session.toJson
        | .error _ => .fault 404 "Session data not found" := by
  rw [sessionData]
  simp only [String.isEmpty_iff]
  refine if_congr Iff.rfl rfl ?_
  cases found : SessionStore.find store (trim value) with
  | ok _ => rfl
  | error _ => simp only [DirectoryStore.isAbsent_of_find found, if_true]

/-- At the route the answer depends on the path parameter alone. -/
theorem respond_eq {target : String} (atRoute : (Target.ofText target).path = "/get_session_data") :
    respond store "GET" target =
      match parameter? (Target.ofText target).query "path" with
      | none => .plain 400
      | some value => sessionData store (value.getD "") := by
  simp only [respond, atRoute]
  cases given : parameter? (Target.ofText target).query "path" <;> simp [route?, given]

/-- The route asks for one value. It answers that the request is bad exactly if the value is blank,
that all is well exactly if the store finds a session for it, and that there is none in every other
case, whatever is in the data directory. The document of a session whose numbers are integers reads
back as that session. A value that is given twice is none that can be looked up, and nothing is ever
the fault of the server. -/
theorem respond_session (store : DirectoryStore) {target : String}
    (atRoute : (Target.ofText target).path = "/get_session_data") :
    let response := respond store "GET" target
    response.status ≠ 500 ∧
      match parameter? (Target.ofText target).query "path" with
      | none => response.status = 400
      | some value =>
          let query := trim (value.getD "")
          (response.status = 400 ↔ query = "") ∧
            (response.status = 200 ↔ ∃ found, SessionStore.find store query = .ok found) ∧
            (response.status = 404 ↔
              query ≠ "" ∧ ¬ ∃ found, SessionStore.find store query = .ok found) ∧
            ∀ path session, SessionStore.find store query = .ok (path, session) →
              ∃ document, response.document = some document ∧
                ((∀ number ∈ session.toJson.numbers, number.IsInteger) →
                  Session.read? document.toCompactText = some session) := by
  rw [respond_eq atRoute]
  cases given : parameter? (Target.ofText target).query "path" with
  | none => simp [Response.plain]
  | some value =>
      simp only [sessionData_eq]
      by_cases blank : trim (value.getD "") = ""
      · simp [blank, Response.fault, DirectoryStore.find_empty]
      · cases found : SessionStore.find store (trim (value.getD "")) with
        | error fault => simp [blank, Response.fault]
        | ok result =>
            obtain ⟨path, session⟩ := result
            have readBack (integers : ∀ number ∈ session.toJson.numbers, number.IsInteger) :
                Session.read? session.toJson.toCompactText = some session := by
              obtain ⟨_, _, read⟩ := DirectoryStore.exists_read?_of_load
                (SessionStore.find_eq_ok_iff.mp found).2
              exact Session.read?_toCompactText (Session.asRead_of_read? read) integers
            simpa [blank, Response.ok] using readBack

/-- A document that is a session and one that is none. -/
def tokenAndBroken : List (String × String) :=
  [("broken", "\x7b not json"), ("token", "\x7b\"scan_results\":7\x7d")]

/-- The store with both documents. -/
def tokenStore : DirectoryStore :=
  .ofDocuments .substring tokenAndBroken

/-- Both directories have names that a directory can have. -/
theorem isDirectoryName_tokenAndBroken :
    ∀ name ∈ tokenAndBroken.map Prod.fst, IsDirectoryName name := by
  simp only [tokenAndBroken, List.map_cons, List.map_nil, List.mem_cons, List.not_mem_nil, or_false,
    forall_eq_or_imp, forall_eq]
  exact ⟨⟨⟨by decide, by decide, by decide, by decide, by decide⟩, by decide⟩,
    ⟨⟨by decide, by decide, by decide, by decide, by decide⟩, by decide⟩⟩

/-- A query finds the first of the two directories whose name contains it. -/
theorem lookup?_tokenStore (query : String) :
    SessionStore.lookup? tokenStore query =
      (["broken", "token"].find? (KeyMatch.substring.accepts query)).map
        tokenStore.documentPath :=
  DirectoryStore.lookup?_ofDocuments (by decide) isDirectoryName_tokenAndBroken query

/-- The name of the token finds its session. -/
theorem exists_find_token :
    ∃ session, SessionStore.find tokenStore "token" =
        .ok (tokenStore.documentPath "token", session) ∧
      ∀ number ∈ session.toJson.numbers, number.IsInteger := by
  have evaluated : (Session.read? "\x7b\"scan_results\":7\x7d").any (fun session =>
      decide (∀ number ∈ session.toJson.numbers, number.IsInteger)) = true := by decide +kernel
  obtain ⟨session, read, integers⟩ := (Option.any_eq_true ..).mp evaluated
  have first : ["broken", "token"].find? (KeyMatch.substring.accepts "token") = some "token" := by
    decide +kernel
  have loads : tokenStore.load (tokenStore.documentPath "token") = .ok session :=
    DirectoryStore.load_ofDocuments (isDirectoryName_tokenAndBroken "token" (by decide)) rfl read
  refine ⟨session, SessionStore.find_eq_ok_iff.mpr ⟨?_, loads⟩, of_decide_eq_true integers⟩
  rw [lookup?_tokenStore, first, Option.map_some]

/-- The name of the broken directory finds no session. -/
theorem not_find_broken : ¬ ∃ found, SessionStore.find tokenStore "broken" = .ok found := by
  have first : ["broken", "token"].find? (KeyMatch.substring.accepts "broken") =
      some "broken" := by
    decide +kernel
  have refused : (Session.read? "\x7b not json").isNone = true := by decide +kernel
  rintro ⟨⟨path, session⟩, finds⟩
  obtain ⟨located, loads⟩ := SessionStore.find_eq_ok_iff.mp finds
  rw [lookup?_tokenStore, first, Option.map_some] at located
  obtain rfl := Option.some.inj located
  have read := DirectoryStore.read?_of_load_ofDocuments
    (isDirectoryName_tokenAndBroken "broken" (by decide)) rfl loads
  rw [read] at refused
  cases refused

/-- A readable document, a malformed one, and a blank value, each in another spelling of the
target. -/
theorem respond_session_each :
    let readable := "/get_session_data?path=+token%20"
    let malformed := "http://localhost/get_session_data?path=broken"
    let blank := "/get_session_data?path=%09#path"
    ((Target.ofText readable).path = "/get_session_data" ∧
      (Target.ofText malformed).path = "/get_session_data" ∧
      (Target.ofText blank).path = "/get_session_data") ∧
    (respond tokenStore "GET" blank).status = 400 ∧
    (respond tokenStore "GET" malformed).status = 404 ∧
    (respond tokenStore "GET" readable).status = 200 ∧
    ∃ path session document, SessionStore.find tokenStore "token" = .ok (path, session) ∧
      (respond tokenStore "GET" readable).document = some document ∧
      Session.read? document.toCompactText = some session := by
  intro readable malformed blank
  have atRoute : (Target.ofText readable).path = "/get_session_data" ∧
      (Target.ofText malformed).path = "/get_session_data" ∧
      (Target.ofText blank).path = "/get_session_data" := by
    decide +kernel
  have given : parameter? (Target.ofText readable).query "path" = some (some " token ") ∧
      parameter? (Target.ofText malformed).query "path" = some (some "broken") ∧
      parameter? (Target.ofText blank).query "path" = some (some "\t") := by
    decide +kernel
  have trimmed : trim " token " = "token" ∧ trim "broken" = "broken" ∧ trim "\t" = "" := by decide
  have atReadable := (respond_session tokenStore atRoute.1).2
  have atMalformed := (respond_session tokenStore atRoute.2.1).2
  have atBlank := (respond_session tokenStore atRoute.2.2).2
  rw [given.1] at atReadable
  rw [given.2.1] at atMalformed
  rw [given.2.2] at atBlank
  simp only [Option.getD_some, trimmed] at atReadable atMalformed
  obtain ⟨session, finds, integers⟩ := exists_find_token
  obtain ⟨_, succeeds, _, shows⟩ := atReadable
  obtain ⟨document, sent, readBack⟩ := shows _ _ finds
  exact ⟨atRoute, atBlank.1.mpr trimmed.2.2, atMalformed.2.2.1.mpr ⟨by decide, not_find_broken⟩,
    succeeds.mpr ⟨_, finds⟩, _, session, document, finds, sent, readBack integers⟩

end Web.Api

end ContractAtlas

import ContractAtlas.Proofs.Resolution

/-!
# Sessions that are enriched again and again

Every enrichment replaces the addresses of a session by what it found, but it writes a variable only
if it found an address for it. So a variable keeps the address of the last enrichment that resolved
its name (`Enrichments.stateVariables_eq`), and the variables agree with the addresses exactly if
nothing that has been resolved before was lost in the last enrichment.
-/

namespace ContractAtlas

open Json Json.SortedFields

/-- The variables of the session carry what its resolved addresses hold for them. -/
def Session.AddressesAgree (session : Session) : Prop :=
  ∀ declared ∈ session.stateVariables,
    declared.address = find? declared.name session.externalAddresses

/-- The second session comes from the first by enrichments that found these summaries, each with a
reader and a state of its own. -/
inductive Enrichments (first : Session) : List EnrichmentSummary -> Session -> Prop where
  | start : Enrichments first [] first
  | again {summaries : List EnrichmentSummary} {session enriched : Session}
      {summary : EnrichmentSummary} {ω : Type} {reader : ContractReader (StateM ω)}
      {world later : ω} (before : Enrichments first summaries session)
      (run : (enrich reader session).run world = (.ok (enriched, summary), later)) :
      Enrichments first (summaries ++ [summary]) enriched

/-- The address of a name in the last of the summaries that has one. -/
def latestAddress (name : String) (summaries : List EnrichmentSummary) : Option String :=
  summaries.reverse.findSome? fun summary => find? name summary.externalAddresses

@[simp] theorem latestAddress_nil (name : String) : latestAddress name [] = none := rfl

/-- The last summary is asked for a name before the earlier ones. -/
theorem latestAddress_concat (name : String) (summaries : List EnrichmentSummary)
    (summary : EnrichmentSummary) :
    latestAddress name (summaries ++ [summary]) =
      (find? name summary.externalAddresses).or (latestAddress name summaries) := by
  rw [latestAddress, List.reverse_append, List.reverse_singleton, List.singleton_append,
    List.findSome?_cons]
  cases find? name summary.externalAddresses <;> rfl

/-- A name has no latest address exactly when no summary has resolved it. -/
theorem latestAddress_eq_none_iff {name : String} {summaries : List EnrichmentSummary} :
    latestAddress name summaries = none ↔
      ∀ summary ∈ summaries, name ∉ names summary.externalAddresses := by
  simp [latestAddress, List.findSome?_eq_none_iff, find?_eq_none_iff]

namespace StateVariable

/-- A variable takes the address that is found for it and keeps its own where there is none. -/
theorem withAddress_eq_or (addresses : List (String × String)) (declared : StateVariable) :
    declared.withAddress addresses =
      { declared with address := (find? declared.name addresses).or declared.address } := by
  unfold withAddress
  split
  · rename_i address found
    rw [found]
    rfl
  · rename_i missing
    rw [missing]
    rfl

end StateVariable

/-- An enrichment changes a session by the addresses that it found and nothing else. -/
theorem eq_withResolved_of_enrich {ω : Type} {reader : ContractReader (StateM ω)}
    {session enriched : Session} {summary : EnrichmentSummary} {world later : ω}
    (run : (enrich reader session).run world = (.ok (enriched, summary), later)) :
    enriched = session.withResolved summary.externalAddresses := by
  cases deployed : session.contract with
  | error fault =>
      rw [enrich, deployed] at run
      cases run
  | ok contract =>
      rw [run_enrich reader deployed] at run
      obtain ⟨rfl, rfl⟩ := Prod.mk.inj (Except.ok.inj (Prod.mk.inj run).1)
      rfl

namespace Enrichments

variable {first last : Session} {summaries : List EnrichmentSummary}

/-- Enrichments change nothing about the variables but their addresses, and these are the last ones
that have been resolved. -/
theorem stateVariables_eq (history : Enrichments first summaries last) :
    last.stateVariables = first.stateVariables.map fun declared =>
      { declared with address := (latestAddress declared.name summaries).or declared.address } := by
  induction history with
  | start => simp
  | again before run inductionHypothesis =>
      rw [eq_withResolved_of_enrich run, Session.withResolved, inductionHypothesis, List.map_map]
      refine List.map_congr_left fun declared _ => ?_
      rw [Function.comp_apply, StateVariable.withAddress_eq_or, latestAddress_concat,
        Option.or_assoc]

/-- Without an enrichment a session stays what it is. -/
theorem eq_of_nil (history : Enrichments first [] last) : last = first := by
  generalize nothing : ([] : List EnrichmentSummary) = summaries at history
  cases history with
  | start => rfl
  | again before run => simp at nothing

/-- The addresses of a session are the ones that its last enrichment found. -/
theorem externalAddresses_eq {earlier : List EnrichmentSummary} {final : EnrichmentSummary}
    (history : Enrichments first (earlier ++ [final]) last) :
    last.externalAddresses = final.externalAddresses := by
  generalize whole : earlier ++ [final] = summaries at history
  cases history with
  | start => simp at whole
  | again before run =>
      obtain ⟨_, same⟩ := List.append_inj' whole rfl
      obtain ⟨rfl, _⟩ := List.cons.inj same
      rw [eq_withResolved_of_enrich run]
      rfl

end Enrichments

/-- A session whose variables carried no addresses has, after any number of enrichments, on every
variable the last address that was resolved for its name. The variables agree with the addresses of
the session exactly if every name of a variable that one of the enrichments resolved is resolved by
the last one too, or, before the first enrichment, if there are no addresses for the variables. -/
theorem addresses_agree_iff {first last : Session} {summaries : List EnrichmentSummary}
    (history : Enrichments first summaries last)
    (fresh : ∀ declared ∈ first.stateVariables, declared.address = none) :
    (last.stateVariables = first.stateVariables.map fun declared =>
      { declared with address := latestAddress declared.name summaries }) ∧
    (last.AddressesAgree ↔ ∀ declared ∈ first.stateVariables,
      (summaries = [] → declared.name ∉ names first.externalAddresses) ∧
      ∀ earlier final, summaries = earlier ++ [final] → ∀ summary ∈ earlier,
        declared.name ∈ names summary.externalAddresses →
          declared.name ∈ names final.externalAddresses) := by
  have addressed : last.stateVariables = first.stateVariables.map fun declared =>
      { declared with address := latestAddress declared.name summaries } := by
    rw [history.stateVariables_eq]
    refine List.map_congr_left fun declared member => ?_
    rw [fresh declared member, Option.or_none]
  refine ⟨addressed, ?_⟩
  rw [Session.AddressesAgree, addressed, List.forall_mem_map]
  refine forall₂_congr fun declared member => ?_
  induction summaries using List.reverseRecOn with
  | nil =>
      rw [history.eq_of_nil, latestAddress_nil, eq_comm, find?_eq_none_iff]
      simp
  | append_singleton earlier final _ =>
      rw [history.externalAddresses_eq, latestAddress_concat]
      cases found : find? declared.name final.externalAddresses with
      | some address =>
          have held : declared.name ∈ names final.externalAddresses :=
            mem_names_iff.mpr (Option.isSome_iff_exists.mpr ⟨address, found⟩)
          simp [held]
      | none =>
          have missing := find?_eq_none_iff.mp found
          simp [missing, latestAddress_eq_none_iff]

/-- A session with one variable, whose getter has to be asked. -/
def tokenSession : Session where
  networkInfo := { contractAddress := "0x0000000000000000000000000000000000000000" }
  stateVariables := [{ name := "token", type := "address", isVariable := true }]

/-- The contract of a session is not changed by what is found about it. -/
theorem Session.contract_withResolved (session : Session) (addresses : List (String × String)) :
    (session.withResolved addresses).contract = session.contract := rfl

/-- The addresses of the variables of a session by these answers. -/
def recitedAddresses (session : Session) (answers : List (Except ProbeFailure Address)) :
    List (String × String) :=
  ((resolve reciting .zero (ProbeSet.ofVariables session.stateVariables)).run answers).1

/-- The session enriched by a reader with these answers. -/
def recitedSession (session : Session) (answers : List (Except ProbeFailure Address)) : Session :=
  session.withResolved (recitedAddresses session answers)

/-- A history goes on with an enrichment by a reader that recites its answers. -/
theorem Enrichments.recite {first session : Session} {summaries : List EnrichmentSummary}
    (history : Enrichments first summaries session) (deployed : session.contract = .ok .zero)
    (answers : List (Except ProbeFailure Address)) :
    Enrichments first (summaries ++ [session.summary (recitedAddresses session answers)])
      (recitedSession session answers) :=
  history.again (run_enrich reciting deployed answers)

/-- Two readers that recite their answers enrich the session of the token twice. -/
theorem enrichments_tokenSession (first second : List (Except ProbeFailure Address)) :
    Enrichments tokenSession
      ([tokenSession.summary (recitedAddresses tokenSession first)] ++
        [(recitedSession tokenSession first).summary
          (recitedAddresses (recitedSession tokenSession first) second)])
      (recitedSession (recitedSession tokenSession first) second) := by
  have deployed : tokenSession.contract = .ok .zero := by decide
  have once : Enrichments tokenSession [tokenSession.summary (recitedAddresses tokenSession first)]
      (recitedSession tokenSession first) := Enrichments.start.recite deployed first
  have deployedToo : (recitedSession tokenSession first).contract = .ok .zero := by
    rw [recitedSession, Session.contract_withResolved, deployed]
  exact once.recite deployedToo second

/-- The answer of a getter. -/
def tokenAnswer : List (Except ProbeFailure Address) :=
  [.ok ⟨List.replicate 40 ⟨1, by decide⟩, rfl⟩]

/-- A getter that fails first and answers later leaves the variable with the address of the
session. -/
theorem addresses_agree_iff_late_answer :
    (∀ declared ∈ tokenSession.stateVariables, declared.address = none) ∧
      ∃ summaries last, Enrichments tokenSession summaries last ∧ summaries.length = 2 ∧
        last.AddressesAgree := by
  have fresh : ∀ declared ∈ tokenSession.stateVariables, declared.address = none := by decide
  have history := enrichments_tokenSession [] tokenAnswer
  refine ⟨fresh, _, _, history, rfl, (addresses_agree_iff history fresh).2.mpr ?_⟩
  intro declared member
  refine ⟨fun empty => by simp at empty, fun earlier final split summary _ _ => ?_⟩
  obtain ⟨_, same⟩ := List.append_inj' split rfl
  obtain ⟨rfl, _⟩ := List.cons.inj same
  obtain rfl := List.mem_singleton.mp member
  change "token" ∈ names (recitedAddresses (recitedSession tokenSession []) tokenAnswer)
  decide

/-- A getter that answers once and then reverts: the second enrichment empties the addresses of the
session, and the variable keeps the old one. -/
theorem reverted_getter_leaves_address :
    (∀ declared ∈ tokenSession.stateVariables, declared.address = none) ∧
      ∃ summaries last, Enrichments tokenSession summaries last ∧
        last.externalAddresses = [] ∧
        last.stateVariables.map StateVariable.address =
          [some "0x1111111111111111111111111111111111111111"] ∧
        ¬ last.AddressesAgree := by
  have emptied : (recitedSession (recitedSession tokenSession tokenAnswer) []).externalAddresses =
      [] := by decide
  have kept : (recitedSession (recitedSession tokenSession tokenAnswer) []).stateVariables.map
      StateVariable.address = [some "0x1111111111111111111111111111111111111111"] := by
    decide
  refine ⟨by decide, _, _, enrichments_tokenSession tokenAnswer [], emptied, kept, fun agree => ?_⟩
  have carried := kept ▸ List.mem_singleton_self (some "0x1111111111111111111111111111111111111111")
  obtain ⟨declared, member, carries⟩ := List.mem_map.mp carried
  rw [agree declared member, emptied] at carries
  cases carries

end ContractAtlas

import ContractAtlas.Proofs.Session.RepeatedEnrichment

/-!
# What an enrichment reads and writes

An enrichment writes the resolved addresses, on the session and on its variables, and the filtered
calls. It reads none of them: the probes, the literals, the libraries and the calls that it starts
from stand in other places. So a reader that always gives the same answers finds the same again in
the enriched session (`enrich_idempotent`), and everything else stays as it was
(`SameButResolved`).
-/

namespace ContractAtlas

open Json Json.SortedFields

/-- A getter of a contract gives the same address whenever the reader asks for it, or none each
time. -/
def IsSteady {ω : Type} (reader : ContractReader (StateM ω)) : Prop :=
  ∀ contract getter world other,
    ((reader contract getter).run world).1.toOption =
      ((reader contract getter).run other).1.toOption

/-- The second variable is the first one, but for its address if it is among the resolved names. -/
structure StateVariable.SameButResolved (before : StateVariable) (resolved : List String)
    (after : StateVariable) : Prop where
  name : after.name = before.name
  type : after.type = before.type
  body : after.body = before.body
  isVariable : after.isVariable = before.isVariable
  address : before.name ∉ resolved → after.address = before.address
  extra : after.extra = before.extra

/-- The second session is the first one, but for its external calls and addresses and the addresses
of the variables that are among the resolved names. The variables are in the same order. -/
structure Session.SameButResolved (before : Session) (resolved : List String) (after : Session) :
    Prop where
  networkInfo : after.networkInfo = before.networkInfo
  libraryCalls : after.contractData.allLibraryCalls = before.contractData.allLibraryCalls
  allCalls : after.contractData.allExternalCalls = before.contractData.allExternalCalls
  contractExtra : after.contractData.extra = before.contractData.extra
  functions : after.functions = before.functions
  stateVariables : List.Forall₂ (StateVariable.SameButResolved · resolved ·)
    before.stateVariables after.stateVariables
  scanResults : after.scanResults = before.scanResults
  extra : after.extra = before.extra

/-! ## What is written -/

/-- A variable changes in its address only, and only if its name was resolved. -/
theorem StateVariable.sameButResolved_withAddress (addresses : List (String × String))
    (declared : StateVariable) :
    declared.SameButResolved (names addresses) (declared.withAddress addresses) := by
  rw [withAddress_eq_or]
  refine ⟨rfl, rfl, rfl, rfl, fun unresolved => ?_, rfl⟩
  rw [find?_eq_none_iff.mpr unresolved, Option.none_or]

/-- What is found about a session changes its resolved parts only. -/
theorem Session.sameButResolved_withResolved (session : Session)
    (addresses : List (String × String)) :
    session.SameButResolved (names addresses) (session.withResolved addresses) where
  networkInfo := rfl
  libraryCalls := rfl
  allCalls := rfl
  contractExtra := rfl
  functions := rfl
  stateVariables := by
    rw [withResolved, List.forall₂_map_right_iff, List.forall₂_same]
    exact fun declared _ => StateVariable.sameButResolved_withAddress addresses declared
  scanResults := rfl
  extra := rfl

/-! ## What is read -/

/-- The literal of a variable does not depend on its address. -/
theorem StateVariable.literal?_withAddress (addresses : List (String × String))
    (declared : StateVariable) :
    ProbeSet.literal? (declared.withAddress addresses) = ProbeSet.literal? declared := by
  rw [withAddress_eq_or]
  rfl

/-- The addresses on the variables have no part in what has to be resolved. -/
theorem ProbeSet.ofVariables_withAddress (addresses : List (String × String))
    (stateVariables : List StateVariable) :
    ofVariables (stateVariables.map (StateVariable.withAddress addresses)) =
      ofVariables stateVariables := by
  have same (declared : StateVariable) :
      declared.SameButResolved (names addresses) (declared.withAddress addresses) :=
    StateVariable.sameButResolved_withAddress addresses declared
  have kept : candidates (stateVariables.map (StateVariable.withAddress addresses)) =
      (candidates stateVariables).map (StateVariable.withAddress addresses) := by
    rw [candidates, candidates, List.filter_map]
    refine congrArg _ (List.filter_congr fun declared _ => ?_)
    rw [Function.comp_apply, (same declared).isVariable, (same declared).type]
  have literals (variables' : List StateVariable) :
      literalsOf (variables'.map (StateVariable.withAddress addresses)) = literalsOf variables' := by
    rw [literalsOf, literalsOf, List.filterMap_map]
    refine congrArg _ (List.filterMap_congr fun declared _ => ?_)
    rw [Function.comp_apply, StateVariable.literal?_withAddress, (same declared).name]
  have probes (variables' : List StateVariable) :
      probesOf (variables'.map (StateVariable.withAddress addresses)) = probesOf variables' := by
    rw [probesOf, probesOf, List.filter_map, List.map_map]
    simp only [Function.comp_def, StateVariable.literal?_withAddress, (same _).name,
      (same _).type]
  rw [ofVariables, ofVariables, kept, literals, probes]

/-- The first call gives an address if it is answered, and the later ones give theirs. -/
theorem answered_cons (name : String) (answer : Except ProbeFailure Address)
    (later : List (String × Except ProbeFailure Address)) :
    answered ((name, answer) :: later) =
      (answer.toOption.map fun address => (name, address.checksummed)).toList ++
        answered later := by
  cases answer <;> rfl

namespace IsSteady

variable {ω : Type} {reader : ContractReader (StateM ω)}

/-- The getters of a steady reader give the same addresses in every state. -/
theorem answered_eq (steady : IsSteady reader) (contract : Address) (probes : List Probe)
    (world other : ω) :
    answered ((askAll reader contract probes).run world).1 =
      answered ((askAll reader contract probes).run other).1 := by
  induction probes generalizing world other with
  | nil => rfl
  | cons probe probes inductionHypothesis =>
      simp only [run_askAll_cons, answered_cons, steady contract probe.name world other]
      rw [inductionHypothesis]

/-- A reader with steady answers resolves the same addresses in every state. -/
theorem resolve_eq (steady : IsSteady reader) (contract : Address) (probeSet : ProbeSet)
    (world other : ω) :
    ((resolve reader contract probeSet).run world).1 =
      ((resolve reader contract probeSet).run other).1 := by
  simp only [run_resolve, steady.answered_eq contract probeSet.probes world other]

end IsSteady

/-! ## Enriching again -/

/-- A variable takes the same addresses only once. -/
theorem StateVariable.withAddress_withAddress (addresses : List (String × String))
    (declared : StateVariable) :
    (declared.withAddress addresses).withAddress addresses = declared.withAddress addresses := by
  simp only [withAddress_eq_or, ← Option.or_assoc, Option.or_self]

namespace Session

/-- Writing the same addresses twice is writing them once. -/
theorem withResolved_withResolved (session : Session) (addresses : List (String × String)) :
    (session.withResolved addresses).withResolved addresses = session.withResolved addresses := by
  have sameVariables : (session.stateVariables.map (StateVariable.withAddress addresses)).map
      (StateVariable.withAddress addresses) =
      session.stateVariables.map (StateVariable.withAddress addresses) := by
    rw [List.map_map]
    exact List.map_congr_left fun declared _ => declared.withAddress_withAddress addresses
  simp only [withResolved, sameVariables]
  rfl

/-- A summary does not depend on what was resolved before. -/
theorem summary_withResolved (session : Session) (addresses : List (String × String)) :
    (session.withResolved addresses).summary addresses = session.summary addresses := by
  have sameProbes : ProbeSet.ofVariables (session.withResolved addresses).stateVariables =
      ProbeSet.ofVariables session.stateVariables :=
    ProbeSet.ofVariables_withAddress addresses session.stateVariables
  rw [summary, summary, sameProbes]
  rfl

end Session

/-- Enriching a session of a contract with a steady reader succeeds, and enriching the enriched
session again, whatever state the reader is in by then, gives the same session and the same summary.
And every enrichment that succeeds changes nothing but what it resolves. -/
theorem enrich_idempotent :
    (∀ {ω : Type} {reader : ContractReader (StateM ω)}, IsSteady reader →
      ∀ {session : Session} {contract : Address},
        Address.parse? session.contractAddress = some contract → ∀ world,
          ∃ enriched summary later,
            (enrich reader session).run world = (.ok (enriched, summary), later) ∧
            ∀ other, ((enrich reader enriched).run other).1 = .ok (enriched, summary)) ∧
    (∀ {ω : Type} {reader : ContractReader (StateM ω)} {session enriched : Session}
      {summary : EnrichmentSummary} {world later : ω},
        (enrich reader session).run world = (.ok (enriched, summary), later) →
          session.SameButResolved (names summary.externalAddresses) enriched) := by
  refine ⟨fun {ω reader} steady {session contract} read world => ?_, fun run => ?_⟩
  · have deployed : session.contract = .ok contract := Session.contract_eq_ok_iff.mpr read
    refine ⟨_, _, _, run_enrich reader deployed world, fun other => ?_⟩
    generalize found : ((resolve reader contract
      (ProbeSet.ofVariables session.stateVariables)).run world).1 = addresses
    have deployedToo : (session.withResolved addresses).contract = .ok contract := by
      rw [Session.contract_withResolved, deployed]
    have foundAgain : ((resolve reader contract (ProbeSet.ofVariables
        (session.withResolved addresses).stateVariables)).run other).1 = addresses := by
      rw [Session.withResolved, ProbeSet.ofVariables_withAddress, ← found]
      exact steady.resolve_eq contract _ other world
    rw [run_enrich reader deployedToo other]
    dsimp only
    rw [foundAgain, Session.withResolved_withResolved, Session.summary_withResolved]
  · rw [eq_withResolved_of_enrich run]
    exact Session.sameButResolved_withResolved _ _

/-- A reader that counts its calls, knows one getter, and puts the count into every failure. -/
def countingReader : ContractReader (StateM Nat) := fun contract getter => do
  let calls <- get
  set (calls + 1)
  return if getter = "pool" then .ok .zero else .error ⟨contract, getter, .timedOut calls⟩

/-- A reader that only counts its calls answers steadily. -/
theorem isSteady_countingReader : IsSteady countingReader := by
  intro contract getter world other
  have answer (calls : Nat) : ((countingReader contract getter).run calls).1 =
      if getter = "pool" then .ok .zero else .error ⟨contract, getter, .timedOut calls⟩ := rfl
  rw [answer, answer]
  split <;> rfl

/-- Repeated names, literals and failing getters: only the two resolved names change their
variables, and the second enrichment finds what the first one found. -/
theorem enrich_idempotent_collisions :
    IsSteady countingReader ∧ Address.parse? collidingSession.contractAddress = some .zero ∧
      ∃ enriched summary later,
        (enrich countingReader collidingSession).run 0 = (.ok (enriched, summary), later) ∧
        (∀ other, ((enrich countingReader enriched).run other).1 = .ok (enriched, summary)) ∧
        collidingSession.SameButResolved (names summary.externalAddresses) enriched ∧
        names summary.externalAddresses = ["pool", "token"] ∧ summary.unresolved = ["vault"] := by
  have read : Address.parse? collidingSession.contractAddress = some .zero := by decide
  obtain ⟨again, keeps⟩ := enrich_idempotent
  obtain ⟨enriched, summary, later, run, same⟩ := again isSteady_countingReader read 0
  have found : ((enrich countingReader collidingSession).run 0).1.toOption.map (fun result =>
      (names result.2.externalAddresses, result.2.unresolved)) =
        some (["pool", "token"], ["vault"]) := by
    decide
  rw [run] at found
  obtain ⟨resolved, unresolved⟩ := Prod.mk.inj (Option.some.inj found)
  exact ⟨isSteady_countingReader, read, enriched, summary, later, run, same, keeps run, resolved,
    unresolved⟩

end ContractAtlas

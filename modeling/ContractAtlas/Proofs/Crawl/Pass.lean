import ContractAtlas.Proofs.Crawl.Classification
import ContractAtlas.Proofs.Crawl.Course
import ContractAtlas.Proofs.Store.Directories

/-!
# Passes

A pass classifies the dependencies of the sessions that its store lists and of the returned ones
that the store does not find. It finds nothing to send exactly if none of these dependencies, taken
by itself, leads to a request (`classifyPass_queue_nil_iff`).
-/

namespace ContractAtlas.Crawl

open SessionStore (Shows)

variable {σ : Type} [SessionStore σ]

/-- The variables that a session lists for a source, as requests name them. -/
theorem mem_dependenciesOf {session : Session} {dependency : Dependency} :
    dependency ∈ dependenciesOf session ↔ session.key = .ok dependency.source ∧
      (dependency.variableName, dependency.address) ∈ session.externalAddresses := by
  rw [dependenciesOf]
  cases session.key with
  | error _ => simp
  | ok source =>
      simp only [List.mem_map, Except.ok.injEq]
      constructor
      · rintro ⟨listed, member, rfl⟩
        exact ⟨rfl, member⟩
      · rintro ⟨rfl, member⟩
        exact ⟨_, member, rfl⟩

/-- A pass knows the sessions that its store lists and the returned ones that the store does not
find. -/
theorem knownSessions_eq_ok_iff {store : σ} {returned sessions : List Session} :
    knownSessions store returned = .ok sessions ↔
      ∃ listed, SessionStore.sessions store = .ok listed ∧
        sessions = listed.map Prod.snd ++
          returned.filter fun session => !isStored store session.contractAddress := by
  rw [knownSessions]
  cases SessionStore.sessions store with
  | error fault => simp [bind, Except.bind]
  | ok listed => simp [bind, Except.bind, pure, Except.pure, eq_comm]

/-- A pass knows what the store lists and what was returned for a contract that the store does not
find. -/
theorem mem_knownSessions {store : σ} {returned sessions : List Session} {session : Session}
    (known : knownSessions store returned = .ok sessions) :
    session ∈ sessions ↔
      Shows store session ∨
        session ∈ returned ∧ isStored store session.contractAddress = false := by
  obtain ⟨listed, listing, rfl⟩ := knownSessions_eq_ok_iff.mp known
  simp [Shows, listing]

/-- The request that a dependency leads to. -/
def Dependency.request? (store : σ) (level : Level) (inFlight : List SessionKey)
    (dependency : Dependency) : Option Request :=
  (classify store level inFlight dependency.source dependency.variableName dependency.address).2

namespace Frontier

variable (store : σ) (level : Level)

/-- A dependency may add a request to the end of the queue, and takes none away. -/
theorem queue_prefix_visitDependency (frontier : Frontier) (dependency : Dependency) :
    frontier.queue <+: (frontier.visitDependency store level dependency).queue :=
  List.prefix_append ..

/-- So do several dependencies. -/
theorem queue_prefix_foldl (dependencies : List Dependency) (frontier : Frontier) :
    frontier.queue <+: (dependencies.foldl (visitDependency store level) frontier).queue := by
  induction dependencies generalizing frontier with
  | nil => exact List.prefix_rfl
  | cons dependency later inductionHypothesis =>
      exact (queue_prefix_visitDependency store level frontier dependency).trans
        (inductionHypothesis _)

/-- Classifying dependencies puts nothing into an empty queue exactly if no dependency, taken by
itself, leads to a request. -/
theorem queue_foldl_eq_nil_iff (dependencies : List Dependency) (frontier : Frontier)
    (idle : frontier.queue = []) :
    (dependencies.foldl (visitDependency store level) frontier).queue = [] ↔
      ∀ dependency ∈ dependencies, dependency.request? store level frontier.inFlight = none := by
  induction dependencies generalizing frontier with
  | nil => simp [idle]
  | cons dependency later inductionHypothesis =>
      rw [List.foldl_cons, List.forall_mem_cons]
      cases request : dependency.request? store level frontier.inFlight with
      | none =>
          rw [Dependency.request?] at request
          have unchanged : (frontier.visitDependency store level dependency).inFlight =
              frontier.inFlight := by simp [visitDependency, visit, request]
          have stillIdle : (frontier.visitDependency store level dependency).queue = [] := by
            simp [visitDependency, visit, request, idle]
          simp [inductionHypothesis _ stillIdle, unchanged]
      | some found =>
          rw [Dependency.request?] at request
          have queued : (frontier.visitDependency store level dependency).queue = [found] := by
            simp [visitDependency, visit, request, idle]
          have kept := queue_prefix_foldl store level later
            (frontier.visitDependency store level dependency)
          constructor
          · intro empty
            rw [queued, empty] at kept
            exact absurd (List.prefix_nil.mp kept) (List.cons_ne_nil _ _)
          · exact fun nothing => absurd nothing.1 (Option.some_ne_none found)

end Frontier

/-- A pass finds nothing to send exactly if it can list its sessions and none of their dependencies
leads to a request. -/
theorem classifyPass_queue_nil_iff {run : Run} {store : σ} :
    (∃ next, run.classifyPass store = .ok (next, [])) ↔
      ∃ sessions, knownSessions store run.returned = .ok sessions ∧
        ∀ session ∈ sessions, ∀ dependency ∈ dependenciesOf session,
          dependency.request? store run.report.level run.inFlight = none := by
  have nothing (sessions : List Session) : (run.frontierAfter store sessions).queue = [] ↔ _ :=
    Frontier.queue_foldl_eq_nil_iff store run.report.level (sessions.flatMap dependenciesOf)
      ⟨run.report.entries, run.inFlight, []⟩ rfl
  simp only [List.forall_mem_flatMap] at nothing
  constructor
  · rintro ⟨next, pass⟩
    obtain ⟨sessions, known, _, idle⟩ := Run.classifyPass_eq_ok_iff.mp pass
    exact ⟨sessions, known, (nothing sessions).mp idle.symm⟩
  · rintro ⟨sessions, known, idle⟩
    exact ⟨_, Run.classifyPass_eq_ok_iff.mpr
      ⟨sessions, known, rfl, ((nothing sessions).mpr idle).symm⟩⟩

/-- A pass counts itself, and classification alone sends nothing. -/
theorem report_of_classifyPass {run next : Run} {store : σ} {queue : List Request}
    (pass : run.classifyPass store = .ok (next, queue)) :
    next.report.passes = run.report.passes + 1 ∧
      next.report.dispatched = run.report.dispatched := by
  obtain ⟨_, _, rfl, _⟩ := Run.classifyPass_eq_ok_iff.mp pass
  exact ⟨rfl, rfl⟩

end ContractAtlas.Crawl

import ContractAtlas.Crawl.Scheduler
import ContractAtlas.Proofs.SessionKey

/-!
# What becomes of a reference

`classify` decides from the store and the keys handed out so far. Its laws say exactly when a
reference leads to a request and which one (`classify_eq_some`), when it leads to none
(`classify_eq_none_iff`), and when it counts as analyzed (`classify_analyzed_iff`).
-/

namespace ContractAtlas.Crawl

open Text

variable {σ : Type} [SessionStore σ] {store : σ} {level : Level} {inFlight : List SessionKey}
  {source : SessionKey} {name address : String}

/-- The request that a reference leads to asks for the contract that the reference gives, on the
route of the level. Its key is new, and neither the store has it nor is it the zero address. -/
theorem classify_eq_some {state : EntryState} {request : Request}
    (outcome : classify store level inFlight source name address = (state, some request)) :
    ∃ parsed, Address.parse? address = some parsed ∧
      lowerAscii address ≠ Address.zero.lowerText ∧
      request.key = ⟨source.network, parsed⟩ ∧
      request.reference = some ⟨source.display, name⟩ ∧
      level.frontierRoute? = some request.route ∧
      isStored store request.key.checksummedAddress = false ∧ request.key ∉ inFlight := by
  unfold classify at outcome
  split at outcome
  · cases outcome
  rename_i parsed read
  dsimp only at outcome
  split at outcome
  · cases outcome
  rename_i unknown
  split at outcome
  · cases outcome
  rename_i nonzero
  split at outcome
  · cases outcome
  rename_i route onRoute
  cases outcome
  simp only [Bool.or_eq_true, not_or, Bool.not_eq_true, List.contains_eq_mem,
    decide_eq_false_iff_not] at unknown
  exact ⟨parsed, read, nonzero, rfl, rfl, onRoute, unknown.1, unknown.2⟩

/-- Why a reference leads to no request: it is no address, the store has the contract or its key was
handed out, it is the zero address, or the level has no route for it. -/
theorem classify_eq_none_iff :
    (classify store level inFlight source name address).2 = none ↔
      ∀ parsed, Address.parse? address = some parsed →
        isStored store parsed.checksummed = true ∨ ⟨source.network, parsed⟩ ∈ inFlight ∨
          lowerAscii address = Address.zero.lowerText ∨ level.frontierRoute? = none := by
  unfold classify
  cases read : Address.parse? address with
  | none => simp
  | some parsed =>
      cases route : level.frontierRoute? with
      | none => simp; grind [SessionKey.checksummedAddress]
      | some route => simp; grind [SessionKey.checksummedAddress]

/-- A reference counts as analyzed exactly if the store finds its address or its key was handed
out. -/
theorem classify_analyzed_iff :
    (classify store level inFlight source name address).1 = .analyzed ↔
      ∃ parsed, Address.parse? address = some parsed ∧
        (isStored store parsed.checksummed = true ∨ ⟨source.network, parsed⟩ ∈ inFlight) := by
  unfold classify
  cases read : Address.parse? address with
  | none => simp
  | some parsed =>
      cases route : level.frontierRoute? with
      | none => simp; grind [SessionKey.checksummedAddress]
      | some route => simp; grind [SessionKey.checksummedAddress]

end ContractAtlas.Crawl

import ContractAtlas.Enrichment
import ContractAtlas.Proofs.Address
import ContractAtlas.Proofs.Json.Fields
import ContractAtlas.Proofs.Json.SortedFields

/-!
# The reference definition of resolution

Which variables may hold an address, whether a declaration spells one out and which of several
values of a name counts is said here by where things stand in a text or a list, not by how they are
found. `Resolves` puts this together into what a resolution has to ask, find and leave open, and
`enrich_resolves` shows it for every list of variables and every reader, whatever its state makes it
answer to the next call. -/

namespace ContractAtlas

open Json Json.SortedFields

/-! ## Literals -/

/-- A literal of an address has forty-two characters. -/
theorem Address.length_of_ofChars? {text : List Char} {address : Address}
    (read : Address.ofChars? text = some address) : text.length = 42 := by
  obtain ⟨digits, rfl, values⟩ := ofChars?_eq_some_iff.mp read
  rw [List.length_cons, List.length_cons, (mapM_eq_some_iff.mp values).length_eq,
    address.length_digits]

/-- At a place of a text stands a literal of the address. -/
def Address.LiteralAt (address : Address) (characters : List Char) (place : Nat) : Prop :=
  ∃ before text after, characters = before ++ text ++ after ∧ before.length = place ∧
    Address.ofChars? text = some address

/-- The first literal in a text is one of the address. -/
def Address.IsFirstIn (address : Address) (characters : List Char) : Prop :=
  ∃ place, address.LiteralAt characters place ∧
    ∀ earlier < place, ∀ other : Address, ¬ other.LiteralAt characters earlier

/-- The literal at the start of a text is the one that is read there. -/
theorem Address.literalAt_zero_iff {address : Address} {characters : List Char} :
    address.LiteralAt characters 0 ↔ literalHere? characters = some address := by
  constructor
  · rintro ⟨before, text, after, rfl, start, read⟩
    obtain rfl := List.length_eq_zero_iff.mp start
    rw [literalHere?, List.nil_append, List.take_left' (Address.length_of_ofChars? read), read]
  · intro read
    exact ⟨[], characters.take 42, characters.drop 42, by simp, rfl, read⟩

/-- The literals of a text after its first character are those of its later part. -/
theorem Address.literalAt_succ_iff {address : Address} {character : Char} {later : List Char}
    {place : Nat} :
    address.LiteralAt (character :: later) (place + 1) ↔ address.LiteralAt later place := by
  constructor
  · rintro ⟨before, text, after, spelled, start, read⟩
    cases before with
    | nil => cases start
    | cons first before =>
        simp only [List.cons_append, List.cons.injEq] at spelled
        exact ⟨before, text, after, spelled.2, by simpa using start, read⟩
  · rintro ⟨before, text, after, rfl, start, read⟩
    exact ⟨character :: before, text, after, rfl, by simp [start], read⟩

/-- There is no literal in an empty text. -/
theorem Address.not_literalAt_nil {address : Address} {place : Nat} :
    ¬ address.LiteralAt [] place := by
  rintro ⟨before, text, after, spelled, _, read⟩
  simp only [List.nil_eq, List.append_eq_nil_iff] at spelled
  rw [spelled.1.2] at read
  cases read

/-- The search for the first literal finds the first literal. -/
theorem firstLiteral?_eq_some_iff {characters : List Char} {address : Address} :
    firstLiteral? characters = some address ↔ address.IsFirstIn characters := by
  induction characters with
  | nil => simp [firstLiteral?, Address.IsFirstIn, Address.not_literalAt_nil]
  | cons character later inductionHypothesis =>
      rw [firstLiteral?]
      cases here : literalHere? (character :: later) with
      | some found =>
          have stands := Address.literalAt_zero_iff.mpr here
          constructor
          · rintro ⟨⟩
            exact ⟨0, stands, fun earlier below => absurd below (Nat.not_lt_zero earlier)⟩
          · rintro ⟨place, standsThere, first⟩
            obtain rfl : place = 0 := by
              by_contra behind
              exact first 0 (Nat.pos_of_ne_zero behind) found stands
            exact here.symm.trans (Address.literalAt_zero_iff.mp standsThere)
      | none =>
          have notHere : ∀ other : Address, ¬ other.LiteralAt (character :: later) 0 := by
            intro other stands
            cases here.symm.trans (Address.literalAt_zero_iff.mp stands)
          refine inductionHypothesis.trans ⟨?_, ?_⟩
          · rintro ⟨place, stands, first⟩
            refine ⟨place + 1, Address.literalAt_succ_iff.mpr stands, fun earlier below other => ?_⟩
            cases earlier with
            | zero => exact notHere other
            | succ earlier =>
                rw [Address.literalAt_succ_iff]
                exact first earlier (Nat.lt_of_succ_lt_succ below) other
          · rintro ⟨place, stands, first⟩
            cases place with
            | zero => exact absurd stands (notHere address)
            | succ place =>
                refine ⟨place, Address.literalAt_succ_iff.mp stands, fun earlier below other => ?_⟩
                rw [← Address.literalAt_succ_iff]
                exact first (earlier + 1) (Nat.succ_lt_succ below) other

/-! ## Candidates -/

namespace StateVariable

/-- The variable may hold the address of a contract: its type does not begin with an excluded
one. -/
def IsCandidate (declared : StateVariable) : Prop :=
  declared.isVariable = true ∧
    ∀ excluded ∈ typeExceptions, ¬ excluded.toList <+: declared.type.toList

instance : DecidablePred IsCandidate := fun _ => inferInstanceAs (Decidable (_ ∧ _))

/-- The first address literal in the declaration of the variable has this normal form. -/
def SpellsOut (declared : StateVariable) (text : String) : Prop :=
  ∃ body address, declared.body = some body ∧ Address.IsFirstIn address body.toList ∧
    text = address.checksummed

/-- The variable is declared with an address literal. -/
def HasLiteral (declared : StateVariable) : Prop :=
  ∃ text, declared.SpellsOut text

/-- The literal that is read from a declaration is the one that it spells out. -/
theorem literal?_eq_some_iff {declared : StateVariable} {text : String} :
    ProbeSet.literal? declared = some text ↔ declared.SpellsOut text := by
  simp only [ProbeSet.literal?, SpellsOut, Option.bind_eq_bind, Option.bind_eq_some_iff,
    Option.pure_def, Option.some.injEq, firstLiteral?_eq_some_iff]
  constructor
  · rintro ⟨body, declares, address, first, rfl⟩
    exact ⟨body, address, declares, first, rfl⟩
  · rintro ⟨body, address, declares, first, rfl⟩
    exact ⟨body, declares, address, first, rfl⟩

/-- A literal is read from the declarations that have one. -/
theorem literal?_isSome_iff {declared : StateVariable} :
    (ProbeSet.literal? declared).isSome = true ↔ declared.HasLiteral := by
  simp only [Option.isSome_iff_exists, literal?_eq_some_iff, HasLiteral]

instance : DecidablePred HasLiteral := fun _ => decidable_of_iff _ literal?_isSome_iff

end StateVariable

/-- The variables of a list that may hold an address. -/
def candidateVariables (stateVariables : List StateVariable) : List StateVariable :=
  stateVariables.filter fun declared => declared.IsCandidate

/-- The variables that are probed are the candidates. -/
theorem ProbeSet.candidates_eq (stateVariables : List StateVariable) :
    ProbeSet.candidates stateVariables = candidateVariables stateVariables := by
  refine List.filter_congr fun declared _ => Bool.eq_iff_iff.mpr ?_
  rw [decide_eq_true_iff, StateVariable.IsCandidate]
  simp [isProbeCandidate]

/-- The variables whose getter has to be asked. -/
def probedVariables (stateVariables : List StateVariable) : List StateVariable :=
  (candidateVariables stateVariables).filter fun declared => ¬ declared.HasLiteral

/-- The probes are the candidates without a literal, in order. -/
theorem ProbeSet.names_probes (stateVariables : List StateVariable) :
    (ProbeSet.ofVariables stateVariables).probes.map Probe.name =
      (probedVariables stateVariables).map StateVariable.name := by
  rw [ofVariables, candidates_eq, probesOf, List.map_map]
  refine congrArg _ (List.filter_congr fun declared _ => Bool.eq_iff_iff.mpr ?_)
  simp [← StateVariable.literal?_isSome_iff]

/-! ## The last of several values -/

section LastGives

variable {α β : Type} {gives : α -> β -> Prop}

/-- The last item of a list that gives a value gives this one. -/
def LastGives (gives : α -> β -> Prop) (items : List α) (value : β) : Prop :=
  ∃ earlier item later, items = earlier ++ item :: later ∧ gives item value ∧
    ∀ other ∈ later, ∀ value, ¬ gives other value

/-- No item of an empty list gives a value. -/
theorem not_lastGives_nil {value : β} : ¬ LastGives gives [] value := by
  rintro ⟨earlier, item, later, split, _⟩
  simp at split

/-- The last item gives the value, or it gives none and one of the earlier items does. -/
theorem lastGives_concat_iff {items : List α} {last : α} {value : β} :
    LastGives gives (items ++ [last]) value ↔
      gives last value ∨ (∀ value, ¬ gives last value) ∧ LastGives gives items value := by
  constructor
  · rintro ⟨earlier, item, later, split, given, final⟩
    induction later using List.reverseRecOn with
    | nil =>
        obtain ⟨_, same⟩ := List.append_inj' split rfl
        obtain ⟨rfl, _⟩ := List.cons.inj same
        exact .inl given
    | append_singleton later other _ =>
        rw [← List.cons_append, ← List.append_assoc] at split
        obtain ⟨rfl, same⟩ := List.append_inj' split rfl
        obtain ⟨rfl, _⟩ := List.cons.inj same
        exact .inr ⟨final last (by simp), earlier, item, later, rfl, given,
          fun other member => final other (by simp [member])⟩
  · rintro (given | ⟨silent, earlier, item, later, rfl, given, final⟩)
    · exact ⟨items, last, [], rfl, given, by simp⟩
    · refine ⟨earlier, item, later ++ [last], by simp, given, fun other member => ?_⟩
      rcases List.mem_append.mp member with member | member
      · exact final other member
      · obtain rfl := List.mem_singleton.mp member
        exact silent

/-- Some item gives a value exactly if there is a last one that does. -/
theorem exists_lastGives_iff {items : List α} :
    (∃ value, LastGives gives items value) ↔ ∃ item ∈ items, ∃ value, gives item value := by
  constructor
  · rintro ⟨value, earlier, item, later, rfl, given, _⟩
    exact ⟨item, by simp, value, given⟩
  · rintro ⟨item, member, value, given⟩
    induction items using List.reverseRecOn with
    | nil => cases member
    | append_singleton items last inductionHypothesis =>
        by_cases gave : ∃ value, gives last value
        · obtain ⟨value, given⟩ := gave
          exact ⟨value, lastGives_concat_iff.mpr (.inl given)⟩
        · have silent := not_exists.mp gave
          rcases List.mem_append.mp member with member | member
          · obtain ⟨value, gives⟩ := inductionHypothesis member
            exact ⟨value, lastGives_concat_iff.mpr (.inr ⟨silent, gives⟩)⟩
          · obtain rfl := List.mem_singleton.mp member
            exact absurd given (silent value)

/-- Among the entries of a list, the last one of a name is found from behind. -/
theorem find?_reverse_filterMap {field? : α -> Option (String × β)} {name : String}
    {items : List α} {value : β} :
    find? name (items.filterMap field?).reverse = some value ↔
      LastGives (fun item value => field? item = some (name, value)) items value := by
  induction items using List.reverseRecOn with
  | nil => simp [not_lastGives_nil]
  | append_singleton items last inductionHypothesis =>
      rw [lastGives_concat_iff, ← inductionHypothesis, List.filterMap_append]
      cases gaveField : field? last with
      | none => simp [gaveField]
      | some given =>
          obtain ⟨givenName, givenValue⟩ := given
          simp only [List.filterMap_cons, gaveField, List.filterMap_nil, List.reverse_append,
            List.reverse_singleton, List.singleton_append, find?_cons, Option.some.injEq,
            Prod.mk.injEq]
          by_cases same : givenName = name
          · simp [same]
          · simp [same]

/-- Which item is the last to give a value depends on what the items give only. -/
theorem lastGives_congr {other : α -> β -> Prop} {items : List α} {value : β}
    (same : ∀ item value, gives item value ↔ other item value) :
    LastGives gives items value ↔ LastGives other items value := by
  obtain rfl : gives = other := funext₂ fun item value => propext (same item value)
  exact Iff.rfl

end LastGives

/-! ## Calls -/

/-- A call of a getter and what it gave. -/
structure GetterCall where
  contract : Address
  getter : String
  answer : Except ProbeFailure Address

/-- The call gave the address that stands for `text` in normal form. -/
def GetterCall.Answers (call : GetterCall) (text : String) : Prop :=
  ∃ address, call.answer = .ok address ∧ text = address.checksummed

/-- What the calls of one getter gave, in order. -/
def answersOf (getter : String) (calls : List GetterCall) : List (Except ProbeFailure Address) :=
  (calls.filter fun call => call.getter = getter).map GetterCall.answer

/-- The reader that also notes its calls. -/
def recording {ω : Type} (reader : ContractReader (StateM ω)) :
    ContractReader (StateM (ω × List GetterCall)) := fun contract getter => do
  let (world, calls) <- get
  let (answer, later) := (reader contract getter).run world
  set (later, calls ++ [⟨contract, getter, answer⟩])
  return answer

/-- A reader that keeps a record answers as the reader does and adds the call to its record. -/
theorem run_recording {ω : Type} (reader : ContractReader (StateM ω)) (contract : Address)
    (getter : String) (world : ω) (past : List GetterCall) :
    (recording reader contract getter).run (world, past) =
      let asked := (reader contract getter).run world
      (asked.1, asked.2, past ++ [⟨contract, getter, asked.1⟩]) := rfl

/-- Probes are asked one after the other, the later ones from the state that the first one leaves.
-/
theorem run_askAll_cons {ω : Type} (reader : ContractReader (StateM ω)) (contract : Address)
    (probe : Probe) (probes : List Probe) (world : ω) :
    (askAll reader contract (probe :: probes)).run world =
      let asked := (reader contract probe.name).run world
      let rest := (askAll reader contract probes).run asked.2
      ((probe.name, asked.1) :: rest.1, rest.2) := by
  rw [askAll, List.mapM_cons]
  rfl

/-- Noting the calls changes neither the answers nor the state of the reader. Every probe is called
once on the contract, in order, whatever the calls before it gave. -/
theorem run_askAll_recording {ω : Type} (reader : ContractReader (StateM ω)) (contract : Address)
    (probes : List Probe) (world : ω) (past : List GetterCall) :
    ∃ calls later,
      (askAll (recording reader) contract probes).run (world, past) =
        (calls.map fun call => (call.getter, call.answer), later, past ++ calls) ∧
      (askAll reader contract probes).run world =
        (calls.map fun call => (call.getter, call.answer), later) ∧
      calls.map (fun call => (call.contract, call.getter)) =
        probes.map fun probe => (contract, probe.name) := by
  induction probes generalizing world past with
  | nil => exact ⟨[], world, by rw [List.append_nil]; rfl, rfl, rfl⟩
  | cons probe probes inductionHypothesis =>
      rcases asked : (reader contract probe.name).run world with ⟨answer, next⟩
      obtain ⟨calls, later, recorded, same, called⟩ :=
        inductionHypothesis next (past ++ [⟨contract, probe.name, answer⟩])
      refine ⟨⟨contract, probe.name, answer⟩ :: calls, later, ?_, ?_, ?_⟩
      · simp only [run_askAll_cons, run_recording, asked, recorded, List.map_cons,
          List.append_assoc, List.singleton_append]
      · simp only [run_askAll_cons, asked, same, List.map_cons]
      · rw [List.map_cons, List.map_cons, called]

/-! ## The reference -/

/-- The last candidate of the name with a literal spells this text out. -/
def LastLiteral (stateVariables : List StateVariable) (name text : String) : Prop :=
  LastGives (fun declared text => declared.name = name ∧ declared.SpellsOut text)
    (candidateVariables stateVariables) text

/-- The last call of the getter that succeeded gave the address of this text. -/
def LastAnswer (calls : List GetterCall) (getter text : String) : Prop :=
  LastGives (fun call text => call.getter = getter ∧ call.Answers text) calls text

/-- The resolved addresses and the unresolved names are the right ones for the variables of a
contract and the calls that have been made. -/
structure Resolves (stateVariables : List StateVariable) (contract : Address)
    (calls : List GetterCall) (addresses : List (String × String)) (unresolved : List String) :
    Prop where
  /-- The getters of the candidates without a literal are called in order, every one as often as it
  occurs. -/
  called : calls.map (fun call => (call.contract, call.getter)) =
    (probedVariables stateVariables).map fun declared => (contract, declared.name)
  sorted : Sorted addresses
  /-- A literal wins over all answers and a later value over an earlier one of its kind. -/
  holds : ∀ name text, find? name addresses = some text ↔
    LastLiteral stateVariables name text ∨
      (∀ declared ∈ candidateVariables stateVariables,
        declared.name = name → ¬ declared.HasLiteral) ∧ LastAnswer calls name text
  /-- There are no names but those of candidates. -/
  named : ∀ name ∈ names addresses,
    ∃ declared ∈ candidateVariables stateVariables, declared.name = name
  unresolved_eq : unresolved =
    (calls.map GetterCall.getter).filter fun name => name ∉ names addresses
  settled : ∀ declared ∈ candidateVariables stateVariables,
    Xor (declared.name ∈ names addresses) (declared.name ∈ unresolved)

/-- A name has a last literal exactly when one of its candidates has a literal. -/
theorem exists_lastLiteral_iff {stateVariables : List StateVariable} {name : String} :
    (∃ text, LastLiteral stateVariables name text) ↔
      ∃ declared ∈ candidateVariables stateVariables,
        declared.name = name ∧ declared.HasLiteral := by
  simp only [LastLiteral, exists_lastGives_iff, StateVariable.HasLiteral, exists_and_left]

/-- The answers of other getters do not matter to the last answer of a getter. -/
theorem lastAnswer_iff {calls : List GetterCall} {getter text : String} :
    LastAnswer calls getter text ↔
      LastGives (fun answer text => ∃ address : Address, answer = .ok address ∧
        text = address.checksummed) (answersOf getter calls) text := by
  induction calls using List.reverseRecOn with
  | nil => simp [LastAnswer, answersOf, not_lastGives_nil]
  | append_singleton calls last inductionHypothesis =>
      rw [LastAnswer, lastGives_concat_iff, ← LastAnswer, inductionHypothesis, answersOf, answersOf,
        List.filter_append, List.map_append]
      by_cases same : last.getter = getter
      · simp [same, lastGives_concat_iff, GetterCall.Answers]
      · simp [same]

/-- The literal kept for a name is that of its last candidate with one. -/
theorem find?_literals {stateVariables : List StateVariable} {name text : String} :
    find? name (ProbeSet.ofVariables stateVariables).literals = some text ↔
      LastLiteral stateVariables name text := by
  rw [ProbeSet.ofVariables, ProbeSet.literalsOf, find?_ofList, find?_reverse_filterMap,
    ProbeSet.candidates_eq, LastLiteral]
  refine lastGives_congr fun declared text => ?_
  simp [← StateVariable.literal?_eq_some_iff, and_comm]

/-- The address kept for a name is that of the last call that was answered. -/
theorem find?_answered {calls : List GetterCall} {name text : String} :
    find? name (ofList (answered (calls.map fun call => (call.getter, call.answer)))) = some text ↔
      LastAnswer calls name text := by
  rw [find?_ofList, answered, List.filterMap_map, find?_reverse_filterMap, LastAnswer]
  refine lastGives_congr fun call text => ?_
  cases answer : call.answer <;> simp [GetterCall.Answers, answer, eq_comm]

/-- A run asks all probes and then lets the literals overrule the answers. -/
theorem run_resolve {ω : Type} (reader : ContractReader (StateM ω)) (contract : Address)
    (probeSet : ProbeSet) (world : ω) :
    (resolve reader contract probeSet).run world =
      let asked := (askAll reader contract probeSet.probes).run world
      (insertAll (ofList (answered asked.1)) probeSet.literals, asked.2) := rfl

/-- The addresses of a list of variables after these calls. -/
def addressesAfter (stateVariables : List StateVariable) (calls : List GetterCall) :
    List (String × String) :=
  insertAll (ofList (answered (calls.map fun call => (call.getter, call.answer))))
    (ProbeSet.ofVariables stateVariables).literals

/-- What is found under a name after a resolution. -/
theorem find?_addressesAfter {stateVariables : List StateVariable} {calls : List GetterCall}
    {name text : String} :
    find? name (addressesAfter stateVariables calls) = some text ↔
      LastLiteral stateVariables name text ∨
        (∀ declared ∈ candidateVariables stateVariables,
          declared.name = name → ¬ declared.HasLiteral) ∧ LastAnswer calls name text := by
  have sorted : Sorted (ProbeSet.ofVariables stateVariables).literals := sorted_ofList _
  have unreversed := find?_ofList name (ProbeSet.ofVariables stateVariables).literals
  rw [ofList_eq_self sorted] at unreversed
  rw [addressesAfter, find?_insertAll, ← unreversed, Option.or_eq_some_iff, find?_literals,
    find?_answered, find?_eq_none_iff, mem_names_iff, Option.isSome_iff_exists]
  simp only [find?_literals, exists_lastLiteral_iff, not_exists, not_and]

/-- The resolution after the calls that it asks for is the right one. -/
theorem resolves_addressesAfter {stateVariables : List StateVariable} {contract : Address}
    {calls : List GetterCall}
    (called : calls.map (fun call => (call.contract, call.getter)) =
      (probedVariables stateVariables).map fun declared => (contract, declared.name)) :
    Resolves stateVariables contract calls (addressesAfter stateVariables calls)
      (Session.unresolvedNames (addressesAfter stateVariables calls)
        (ProbeSet.ofVariables stateVariables).probes) := by
  have getters : calls.map GetterCall.getter =
      (probedVariables stateVariables).map StateVariable.name := by
    simpa [Function.comp_def] using congrArg (List.map Prod.snd) called
  have unresolved : Session.unresolvedNames (addressesAfter stateVariables calls)
      (ProbeSet.ofVariables stateVariables).probes =
      (calls.map GetterCall.getter).filter fun name =>
        name ∉ names (addressesAfter stateVariables calls) := by
    rw [getters, ← ProbeSet.names_probes, List.filter_map, Session.unresolvedNames]
    refine congrArg _ (List.filter_congr fun probe _ => Bool.eq_iff_iff.mpr ?_)
    simp [has, mem_names_iff]
  refine ⟨called, (sorted_ofList _).insertAll _, fun name text => find?_addressesAfter, ?_,
    unresolved, ?_⟩
  · intro name member
    obtain ⟨text, found⟩ := Option.isSome_iff_exists.mp (mem_names_iff.mp member)
    rcases find?_addressesAfter.mp found with literal | ⟨_, answer⟩
    · obtain ⟨declared, candidate, same, _⟩ := exists_lastLiteral_iff.mp ⟨text, literal⟩
      exact ⟨declared, candidate, same⟩
    · obtain ⟨call, member, _, same, _⟩ := exists_lastGives_iff.mp ⟨text, answer⟩
      have asked := List.mem_map_of_mem (f := GetterCall.getter) member
      rw [getters, same] at asked
      obtain ⟨declared, probed, named⟩ := List.mem_map.mp asked
      exact ⟨declared, (List.mem_filter.mp probed).1, named⟩
  · intro declared candidate
    rw [unresolved, List.mem_filter, decide_eq_true_iff]
    by_cases literal : declared.HasLiteral
    · obtain ⟨text, last⟩ := exists_lastLiteral_iff.mpr ⟨declared, candidate, rfl, literal⟩
      have found : find? declared.name (addressesAfter stateVariables calls) = some text :=
        find?_addressesAfter.mpr (.inl last)
      have member := mem_names_iff.mpr (Option.isSome_iff_exists.mpr ⟨text, found⟩)
      exact .inl ⟨member, fun left => left.2 member⟩
    · have asked : declared.name ∈ calls.map GetterCall.getter := by
        rw [getters]
        exact List.mem_map_of_mem (List.mem_filter.mpr ⟨candidate, by simpa using literal⟩)
      by_cases member : declared.name ∈ names (addressesAfter stateVariables calls)
      · exact .inl ⟨member, fun left => left.2 member⟩
      · exact .inr ⟨⟨asked, member⟩, member⟩

/-- What resolutions of the same variables find for a name and whether they leave it open depends on
the answers of its own getter only. -/
theorem Resolves.agree {stateVariables : List StateVariable} {contract : Address}
    {calls otherCalls : List GetterCall} {addresses otherAddresses : List (String × String)}
    {unresolved otherUnresolved : List String}
    (first : Resolves stateVariables contract calls addresses unresolved)
    (second : Resolves stateVariables contract otherCalls otherAddresses otherUnresolved)
    {name : String} (same : answersOf name otherCalls = answersOf name calls) :
    find? name otherAddresses = find? name addresses ∧
      (name ∈ otherUnresolved ↔ name ∈ unresolved) := by
  have found : find? name otherAddresses = find? name addresses := by
    apply Option.ext
    intro text
    rw [first.holds, second.holds, lastAnswer_iff, lastAnswer_iff, same]
  have getters := congrArg (List.map Prod.snd) (second.called.trans first.called.symm)
  simp only [List.map_map, Function.comp_def] at getters
  refine ⟨found, ?_⟩
  rw [first.unresolved_eq, second.unresolved_eq, List.mem_filter, List.mem_filter, getters]
  simp only [mem_names_iff, found]

/-- The contract of a session is the address that its text denotes. -/
theorem Session.contract_eq_ok_iff {session : Session} {contract : Address} :
    session.contract = .ok contract ↔
      Address.parse? session.contractAddress = some contract := by
  unfold Session.contract
  split
  · rename_i address read
    simp [read]
  · rename_i unread
    simp [unread]

/-- Enriching a session of a contract resolves the probe set of its variables. -/
theorem run_enrich {ω : Type} (reader : ContractReader (StateM ω)) {session : Session}
    {contract : Address} (deployed : session.contract = .ok contract) (world : ω) :
    (enrich reader session).run world =
      let found := (resolve reader contract (ProbeSet.ofVariables session.stateVariables)).run world
      (.ok (session.withResolved found.1, session.summary found.1), found.2) := by
  rw [enrich, deployed]
  rfl

/-- The run of a recorded enrichment next to the run of the same enrichment and of the resolution
alone. -/
theorem exists_recorded_enrich {ω : Type} (reader : ContractReader (StateM ω)) (world : ω)
    {session : Session} {contract : Address} (deployed : session.contract = .ok contract) :
    ∃ summary later calls,
      (enrich (recording reader) session).run (world, []) =
        (.ok (session.withResolved summary.externalAddresses, summary), later, calls) ∧
      (enrich reader session).run world =
        (.ok (session.withResolved summary.externalAddresses, summary), later) ∧
      (resolveVariables reader session.contractAddress session.stateVariables).run world =
        (.ok summary.externalAddresses, later) ∧
      Resolves session.stateVariables contract calls summary.externalAddresses
        summary.unresolved := by
  obtain ⟨calls, later, recorded, same, called⟩ := run_askAll_recording reader contract
    (ProbeSet.ofVariables session.stateVariables).probes world []
  have calledVariables : calls.map (fun call => (call.contract, call.getter)) =
      (probedVariables session.stateVariables).map fun declared => (contract, declared.name) := by
    have paired := congrArg (List.map (Prod.mk contract))
      (ProbeSet.names_probes session.stateVariables)
    rw [List.map_map, List.map_map] at paired
    exact called.trans paired
  have resolveRun :
      (resolveVariables reader session.contractAddress session.stateVariables).run world =
        let found :=
          (resolve reader contract (ProbeSet.ofVariables session.stateVariables)).run world
        (.ok found.1, found.2) := by
    rw [resolveVariables, Session.contract_eq_ok_iff.mp deployed]
    rfl
  refine ⟨session.summary (addressesAfter session.stateVariables calls), later, calls, ?_, ?_, ?_,
    resolves_addressesAfter calledVariables⟩
  · rw [run_enrich _ deployed, run_resolve, recorded]
    rfl
  · rw [run_enrich _ deployed, run_resolve, same]
    rfl
  · rw [resolveRun, run_resolve, same]
    rfl

/-- Enriching a session calls the getters, finds the addresses and leaves the names open that the
reference says, whatever its variables are and however the answers of the reader change from call to
call. What it finds for a name depends on the calls of that name's getter only, so a getter that
fails affects no other name. -/
theorem enrich_resolves {ω : Type} (reader : ContractReader (StateM ω)) (world : ω)
    {session : Session} {contract : Address} (deployed : session.contract = .ok contract) :
    ∃ enriched summary later calls,
      (enrich (recording reader) session).run (world, []) =
        (.ok (enriched, summary), later, calls) ∧
      (enrich reader session).run world = (.ok (enriched, summary), later) ∧
      (resolveVariables reader session.contractAddress session.stateVariables).run world =
        (.ok summary.externalAddresses, later) ∧
      Resolves session.stateVariables contract calls summary.externalAddresses
        summary.unresolved ∧
      ∀ {ω' : Type} (other : ContractReader (StateM ω')) (otherWorld : ω')
        otherEnriched otherSummary otherLater otherCalls,
        (enrich (recording other) session).run (otherWorld, []) =
          (.ok (otherEnriched, otherSummary), otherLater, otherCalls) →
        ∀ name, answersOf name otherCalls = answersOf name calls →
          find? name otherSummary.externalAddresses = find? name summary.externalAddresses ∧
            (name ∈ otherSummary.unresolved ↔ name ∈ summary.unresolved) := by
  obtain ⟨summary, later, calls, recorded, same, resolved, right⟩ :=
    exists_recorded_enrich reader world deployed
  refine ⟨_, summary, later, calls, recorded, same, resolved, right, ?_⟩
  intro ω' other otherWorld otherEnriched otherSummary otherLater otherCalls otherRecorded
    name agree
  obtain ⟨_, _, _, recordedAgain, _, _, rightToo⟩ :=
    exists_recorded_enrich other otherWorld deployed
  obtain ⟨results, rest⟩ := Prod.mk.inj (recordedAgain.symm.trans otherRecorded)
  obtain ⟨_, rfl⟩ := Prod.mk.inj (Except.ok.inj results)
  obtain ⟨_, rfl⟩ := Prod.mk.inj rest
  exact right.agree rightToo agree

/-- The reader that takes its answers from a list. -/
def reciting : ContractReader (StateM (List (Except ProbeFailure Address))) :=
  fun contract getter => do
    match <- get with
    | [] => return .error ⟨contract, getter, .noAnswer⟩
    | answer :: later =>
        set later
        return answer

/-- Every kind of collision: `token` is probed, spelled out and probed again, `pool` is probed
twice, and `total` has an excluded type. -/
def collidingSession : Session where
  networkInfo := { contractAddress := "0x0000000000000000000000000000000000000000" }
  stateVariables :=
    [{ name := "token", type := "IERC20", isVariable := true },
     { name := "token", type := "address", isVariable := true,
       body := some "token = 0x1111111111111111111111111111111111111111;" },
     { name := "total", type := "uint256", isVariable := true },
     { name := "pool", type := "IPool", isVariable := true },
     { name := "vault", type := "address", isVariable := true },
     { name := "pool", type := "IPool", isVariable := true },
     { name := "token", type := "IERC20", isVariable := true }]

/-- An answer for `token`, then one for `pool` between two failures. -/
def recited : List (Except ProbeFailure Address) :=
  [.ok .zero, .ok ⟨List.replicate 40 ⟨2, by decide⟩, by simp⟩, .error ⟨.zero, "vault", .reverted⟩,
   .error ⟨.zero, "pool", .reverted⟩]

/-- Five calls are made, the literal of `token` wins over its answer, `pool` keeps its only answer
over the later failure, and `vault` stays open. -/
theorem enrich_resolves_collisions :
    collidingSession.contract = .ok .zero ∧
      ∃ enriched summary later calls,
        (enrich (recording reciting) collidingSession).run (recited, []) =
          (.ok (enriched, summary), later, calls) ∧
        Resolves collidingSession.stateVariables .zero calls summary.externalAddresses
          summary.unresolved ∧
        calls.map GetterCall.getter = ["token", "pool", "vault", "pool", "token"] ∧
        summary.externalAddresses =
          [("pool", "0x2222222222222222222222222222222222222222"),
           ("token", "0x1111111111111111111111111111111111111111")] ∧
        summary.unresolved = ["vault"] := by
  have deployed : collidingSession.contract = .ok .zero := by decide +kernel
  obtain ⟨enriched, summary, later, calls, recorded, _, _, right, _⟩ :=
    enrich_resolves reciting recited deployed
  have getters : ((enrich (recording reciting) collidingSession).run (recited, [])).2.2.map
      GetterCall.getter = ["token", "pool", "vault", "pool", "token"] := by decide +kernel
  have found : (((enrich (recording reciting) collidingSession).run (recited, [])).1.toOption.map
      fun result => (result.2.externalAddresses, result.2.unresolved)) =
      some ([("pool", "0x2222222222222222222222222222222222222222"),
        ("token", "0x1111111111111111111111111111111111111111")], ["vault"]) := by decide +kernel
  rw [recorded] at getters found
  obtain ⟨addresses, unresolved⟩ := Prod.mk.inj (Option.some.inj found)
  exact ⟨deployed, enriched, summary, later, calls, recorded, right, getters, addresses, unresolved⟩

end ContractAtlas

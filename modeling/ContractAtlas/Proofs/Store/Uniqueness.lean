import ContractAtlas.Proofs.Store.Following

/-!
# One session for every key

A session is saved in the first directory that encodes its key, whether the directory has a document
or not. As long as that is the directory of the session that was saved before under the key, the
store lists one session for every key, and it is the last. A directory that is registered later, and
comes first in the order of the names, breaks this: the next session is saved there, and the one
before stays listed. Nothing else does (`atEach_oneEach_iff`), so a store in which sessions are
saved and no directories registered is safe (`atEach_oneEach_of_saves`). -/

namespace ContractAtlas

open Json.SortedFields

section

variable {σ : Type} [RegisteringStore σ] [DirectoryView σ]

/-- Whether the session of a key stands in a directory behind another one that encodes the key. -/
def DirectoryView.Hidden (store : σ) (key : SessionKey) : Prop :=
  ∃ names first name path held, RegisteringStore.directoryNames store = .ok names ∧
    first ∈ names ∧ key.EncodedBy first ∧ first < name ∧
    DirectoryView.Complete store name path ∧ SessionStore.load store path = .ok held ∧
    held.key = .ok key

namespace StoreChange

/-- Whether a change may be asked of a store. The directory of a session that is saved has a name,
and a directory is registered only where there is no document. -/
def MayApply (store : σ) : StoreChange → Prop
  | .save session => session.IsNameable
  | .register name => Path.IsName name ∧ ∀ path, ¬ DirectoryView.Complete store name path

/-- Whether a change saves a session while the one before of its key is hidden. -/
def Overlooks (store : σ) : StoreChange → Prop
  | .save session => ∃ key, session.key = .ok key ∧ DirectoryView.Hidden store key
  | .register _ => False

end StoreChange

/-- A store, and the session that was saved last under every key. -/
structure Recorded (σ : Type) where
  store : σ
  last : SessionKey → Option Session := fun _ => none

namespace Recorded

/-- The last sessions after one more has been saved. -/
def remember (recorded : Recorded σ) (session : Session) (key : SessionKey) : Option Session :=
  if session.key = .ok key then some session else recorded.last key

/-- The store after a change. A session that could not be saved is not remembered. -/
def apply (recorded : Recorded σ) (change : StoreChange) : Recorded σ where
  store := (change.apply recorded.store).2
  last :=
    match change, (change.apply recorded.store).1 with
    | .save session, .ok _ => recorded.remember session
    | _, _ => recorded.last

/-- Whether something holds of a store and each of a list of changes, at the time of the change. -/
def AtEach (condition : Recorded σ → StoreChange → Prop) : Recorded σ → List StoreChange → Prop
  | _, [] => True
  | recorded, change :: later =>
      condition recorded change ∧ AtEach condition (recorded.apply change) later

/-- Whether the sessions that a store lists are those that were saved last, one for every key. -/
def OneEach (recorded : Recorded σ) : Prop :=
  ∃ documents, SessionStore.sessions recorded.store = .ok documents ∧
    (documents.map fun document => document.2.key).Nodup ∧
    ∀ session, session ∈ documents.map Prod.snd ↔
      ∃ key, session.key = .ok key ∧ recorded.last key = some session

end Recorded

end

/-! ## Sessions in memory -/

namespace MemoryStore

variable {store : MemoryStore}

/-- The sessions in the order of their directories. -/
def heldSessions (store : MemoryStore) : List Session :=
  store.directories.filterMap Prod.snd

/-- Whether no two directories have sessions of one key. -/
def OneEach (store : MemoryStore) : Prop :=
  ∀ ⦃name other session held⦄, store.session? name = some session →
    store.session? other = some held → session.key = held.key → name = other

/-- The sessions held are those of the directories. -/
theorem mem_heldSessions (sorted : Sorted store.directories) {session : Session} :
    session ∈ store.heldSessions ↔ ∃ name, store.session? name = some session := by
  rw [heldSessions, List.mem_filterMap]
  constructor
  · rintro ⟨directory, member, held⟩
    exact ⟨directory.1, (session?_of_mem sorted member).trans held⟩
  · rintro ⟨name, held⟩
    exact ⟨_, mem_of_session? held, rfl⟩

/-- No key is held twice exactly when no two directories hold sessions of one key. -/
theorem nodup_keys_iff (sorted : Sorted store.directories) :
    (store.heldSessions.map Session.key).Nodup ↔ store.OneEach := by
  rw [heldSessions, List.Nodup, List.pairwise_map, List.pairwise_filterMap]
  constructor
  · intro apart name other session held first second same
    by_contra different
    have symmetric : Std.Symm fun left right : String × Option Session =>
        ∀ session, left.2 = some session → ∀ held, right.2 = some held →
          session.key ≠ held.key :=
      ⟨fun _ _ apart held isHeld session isSession => (apart session isSession held isHeld).symm⟩
    exact apart.forall (mem_of_session? first) (mem_of_session? second)
      (fun pairs => different (congrArg Prod.fst pairs)) session rfl held rfl same
  · intro one
    refine (List.pairwise_map.mp sorted).imp_of_mem fun {left right} isLeft isRight less => ?_
    intro session isSession held isHeld same
    exact absurd (one ((session?_of_mem sorted isLeft).trans isSession)
      ((session?_of_mem sorted isRight).trans isHeld) same) (ne_of_lt less)

end MemoryStore

/-! ## What a store that follows one in memory lists -/

namespace FollowsMemory

variable {σ : Type} [RegisteringStore σ] [DirectoryView σ] [FollowsMemory σ]
variable {memory : MemoryStore} {store : σ}

/-- A store that follows one in memory lists the sessions that are held there. -/
theorem sessions_eq (follows : Follows memory store) :
    ∃ documents, SessionStore.sessions store = .ok documents ∧
      documents.map Prod.snd = memory.heldSessions := by
  obtain ⟨path, complete, loads⟩ := complete_eq follows
  refine ⟨memory.directories.filterMap fun directory =>
    directory.2.map fun session => (path directory.1, session), ?_, ?_⟩
  · rw [SessionStore.sessions, DirectoryView.documents_eq, complete]
    simp only [Except.map, bind, Except.bind, pure, Except.pure, SessionStore.loadable,
      List.map_filterMap, List.filterMap_filterMap]
    refine congrArg Except.ok (List.filterMap_congr fun directory member => ?_)
    obtain ⟨name, held⟩ := directory
    cases held with
    | none => rfl
    | some session =>
        have held := MemoryStore.session?_of_mem (sorted follows) member
        simp [loads name session held]
  · rw [List.map_filterMap, MemoryStore.heldSessions]
    refine List.filterMap_congr fun directory _ => ?_
    simp [Function.comp_def]

/-- The documents of a store are those of the sessions in memory. -/
theorem held_iff (follows : Follows memory store) {name : String} {session : Session} :
    (∃ path, DirectoryView.Complete store name path ∧
      SessionStore.load store path = .ok session) ↔ memory.session? name = some session := by
  obtain ⟨pathOf, complete, loads⟩ := complete_eq follows
  constructor
  · rintro ⟨path, ⟨named, listing, member⟩, loaded⟩
    obtain rfl := Except.ok.inj (complete.symm.trans listing)
    obtain ⟨⟨other, held⟩, isDirectory, document⟩ := List.mem_filterMap.mp member
    obtain ⟨stored, rfl, same⟩ := Option.map_eq_some_iff.mp document
    obtain ⟨rfl, rfl⟩ := Prod.mk.inj same
    have held := MemoryStore.session?_of_mem (sorted follows) isDirectory
    obtain rfl := Except.ok.inj ((loads other stored held).symm.trans loaded)
    exact held
  · intro held
    refine ⟨pathOf name, ⟨_, complete, ?_⟩, loads name session held⟩
    exact List.mem_filterMap.mpr ⟨_, MemoryStore.mem_of_session? held, rfl⟩

/-- A store that follows an empty one has no complete directory. -/
theorem not_complete_empty {keyMatch : KeyMatch} (follows : Follows { keyMatch } store)
    {name : String} {path : Path} : ¬ DirectoryView.Complete store name path := by
  rintro ⟨named, listing, member⟩
  obtain ⟨_, complete, _⟩ := complete_eq follows
  obtain rfl := Except.ok.inj (complete.symm.trans listing)
  cases member

/-- A name with no complete directory holds no session in memory. -/
theorem session?_eq_none (follows : Follows memory store) {name : String}
    (free : ∀ path, ¬ DirectoryView.Complete store name path) : memory.session? name = none := by
  cases held : memory.session? name with
  | none => rfl
  | some session =>
      obtain ⟨path, complete, _⟩ := (held_iff follows).mpr held
      exact absurd complete (free path)

/-- A key is hidden exactly when a name that encodes it comes before that of a directory with its
session. -/
theorem hidden_iff (follows : Follows memory store) {key : SessionKey} :
    DirectoryView.Hidden store key ↔
      ∃ first ∈ names memory.directories, key.EncodedBy first ∧ ∃ name held, first < name ∧
        memory.session? name = some held ∧ held.key = .ok key := by
  constructor
  · rintro ⟨names, first, name, path, held, listing, listed, encoded, less, complete, loads, keyed⟩
    obtain rfl := Except.ok.inj ((directoryNames_eq follows).symm.trans listing)
    exact ⟨first, listed, encoded, name, held, less,
      (held_iff follows).mp ⟨path, complete, loads⟩, keyed⟩
  · rintro ⟨first, listed, encoded, name, held, less, isHeld, keyed⟩
    obtain ⟨path, complete, loads⟩ := (held_iff follows).mpr isHeld
    exact ⟨_, first, name, path, held, directoryNames_eq follows, listed, encoded, less, complete,
      loads, keyed⟩

end FollowsMemory

/-! ## Changes -/

namespace Recorded

variable {σ : Type} [RegisteringStore σ] [DirectoryView σ] [FollowsMemory σ]
variable {recorded : Recorded σ} {memory : MemoryStore}

/-- What holds of a store after every history, however its directories are named: it follows one in
memory, every session is in a directory that encodes its key, and the session that was saved last
under a key is among them. -/
structure Tracks (recorded : Recorded σ) (memory : MemoryStore) : Prop where
  follows : FollowsMemory.Follows memory recorded.store
  encoded : ∀ {name session}, memory.session? name = some session →
    ∃ key, session.key = .ok key ∧ key.EncodedBy name
  remembered : ∀ {name session key}, memory.session? name = some session →
    session.key = .ok key → (recorded.last key).isSome = true
  held : ∀ {key session}, recorded.last key = some session →
    session.key = .ok key ∧ ∃ name, memory.session? name = some session

namespace Tracks

/-- A store lists the last session of every key, and no other, exactly if no two directories have
sessions of one key. -/
theorem oneEach_iff (tracks : recorded.Tracks memory) : recorded.OneEach ↔ memory.OneEach := by
  have sorted := FollowsMemory.sorted tracks.follows
  obtain ⟨documents, listing, same⟩ := FollowsMemory.sessions_eq tracks.follows
  have keys : (documents.map fun document => document.2.key) =
      memory.heldSessions.map Session.key := by
    rw [← same, List.map_map]
    rfl
  constructor
  · rintro ⟨others, listingToo, distinct, _⟩
    obtain rfl := Except.ok.inj (listing.symm.trans listingToo)
    exact (MemoryStore.nodup_keys_iff sorted).mp (keys ▸ distinct)
  · intro one
    refine ⟨documents, listing, keys ▸ (MemoryStore.nodup_keys_iff sorted).mpr one, ?_⟩
    intro session
    rw [same, MemoryStore.mem_heldSessions sorted]
    constructor
    · rintro ⟨name, isHeld⟩
      obtain ⟨key, keyed, _⟩ := tracks.encoded isHeld
      obtain ⟨last, isLast⟩ := Option.isSome_iff_exists.mp (tracks.remembered isHeld keyed)
      obtain ⟨keyedToo, other, isHeldToo⟩ := tracks.held isLast
      obtain rfl := one isHeld isHeldToo (keyed.trans keyedToo.symm)
      obtain rfl := Option.some.inj (isHeld.symm.trans isHeldToo)
      exact ⟨key, keyed, isLast⟩
    · rintro ⟨key, _, isLast⟩
      exact (tracks.held isLast).2

/-- A directory that is registered changes no sessions. -/
theorem register (tracks : recorded.Tracks memory) {name : String}
    (mayApply : (StoreChange.register name).MayApply recorded.store) :
    ∃ later, (recorded.apply (.register name)).Tracks later ∧
      ∀ other, later.session? other = memory.session? other := by
  obtain ⟨isName, free⟩ := mayApply
  have unheld := FollowsMemory.session?_eq_none tracks.follows free
  obtain ⟨later, registered, follows⟩ | ⟨fault, refused⟩ :=
    FollowsMemory.register tracks.follows isName unheld
  · have applied : recorded.apply (.register name) = ⟨later, recorded.last⟩ := by
      simp only [apply, StoreChange.apply, registered]
    rw [applied]
    have same := MemoryStore.session?_put_none unheld
    refine ⟨_, ⟨follows, fun held => tracks.encoded ((same _).symm.trans held),
      fun held => tracks.remembered ((same _).symm.trans held), fun isLast => ?_⟩, same⟩
    obtain ⟨keyed, other, held⟩ := tracks.held isLast
    exact ⟨keyed, other, (same other).trans held⟩
  · have applied : recorded.apply (.register name) = recorded := by
      simp only [apply, StoreChange.apply, refused]
    rw [applied]
    exact ⟨memory, tracks, fun _ => rfl⟩

/-- A session without a key changes nothing. -/
theorem apply_save_of_invalid {session : Session} {invalid : InvalidTarget}
    (keyless : session.key = .error invalid) : recorded.apply (.save session) = recorded := by
  have refused := FollowsMemory.save_of_invalid recorded.store keyless
  simp only [apply, StoreChange.apply, refused, Except.map]

/-- A session in a directory that encodes its key is the last one of the key. Those of other keys
stay, since no directory encodes two. -/
theorem remember (tracks : recorded.Tracks memory) {session : Session} {key : SessionKey}
    (keyed : session.key = .ok key) {name : String} (encodes : key.EncodedBy name) {later : σ}
    (follows : FollowsMemory.Follows (memory.put name (some session)) later) :
    (Recorded.mk later (recorded.remember session)).Tracks (memory.put name (some session)) where
  follows := follows
  encoded {other held} isHeld := by
    rw [MemoryStore.session?_put] at isHeld
    split at isHeld
    · rename_i here
      obtain rfl := Option.some.inj isHeld
      exact ⟨key, keyed, here ▸ encodes⟩
    · exact tracks.encoded isHeld
  remembered {other held otherKey} isHeld otherKeyed := by
    change (recorded.remember session otherKey).isSome = true
    rw [Recorded.remember]
    split
    · rfl
    · rename_i different
      rw [MemoryStore.session?_put] at isHeld
      split at isHeld
      · obtain rfl := Option.some.inj isHeld
        exact absurd otherKeyed different
      · exact tracks.remembered isHeld otherKeyed
  held {otherKey held} isLast := by
    change recorded.remember session otherKey = some held at isLast
    rw [Recorded.remember] at isLast
    split at isLast
    · rename_i same
      obtain rfl := Option.some.inj isLast
      exact ⟨same, name, by rw [MemoryStore.session?_put, if_pos rfl]⟩
    · rename_i different
      obtain ⟨otherKeyed, other, isHeld⟩ := tracks.held isLast
      -- The last session of another key is still held: no directory encodes two keys.
      have apart : name ≠ other := by
        rintro rfl
        obtain ⟨itsKey, itsKeyed, itsEncodes⟩ := tracks.encoded isHeld
        obtain rfl := encodes.unique itsEncodes
        exact different (keyed.trans (itsKeyed.symm.trans otherKeyed))
      exact ⟨otherKeyed, other, by rw [MemoryStore.session?_put, if_neg apart, isHeld]⟩

/-- A session is put into the directory that is picked for its key, unless that would have to be
made and is refused. -/
theorem save (tracks : recorded.Tracks memory) {session : Session} {key : SessionKey}
    (nameable : session.IsNameable) (retains : FollowsMemory.Retains σ session)
    (keyed : session.key = .ok key) :
    (recorded.apply (.save session)).Tracks
        (memory.put (memory.directoryFor key session.contractName) (some session)) ∨
      recorded.apply (.save session) = recorded ∧
        memory.directoryFor key session.contractName ∉ names memory.directories := by
  obtain ⟨path, later, saved, follows⟩ | ⟨⟨fault, refused⟩, new⟩ :=
    FollowsMemory.save tracks.follows nameable retains keyed
  · left
    have applied : recorded.apply (.save session) = ⟨later, recorded.remember session⟩ := by
      simp only [apply, StoreChange.apply, saved, Except.map]
    rw [applied]
    exact tracks.remember keyed
      (MemoryStore.encodedBy_directoryFor (nameable.isSupported keyed)) follows
  · right
    refine ⟨?_, new⟩
    simp only [apply, StoreChange.apply, refused, Except.map]

/-- A session that is not hidden is in the directory that is picked for its key. -/
theorem directoryFor_eq (tracks : recorded.Tracks memory) {key : SessionKey}
    (supported : Network.isSupported key.network = true)
    (visible : ¬ DirectoryView.Hidden recorded.store key) {name : String} {held : Session}
    (isHeld : memory.session? name = some held) (keyed : held.key = .ok key)
    (contractName : String) : memory.directoryFor key contractName = name := by
  by_contra apart
  obtain ⟨itsKey, itsKeyed, encodes⟩ := tracks.encoded isHeld
  obtain rfl := Except.ok.inj (keyed.symm.trans itsKeyed)
  obtain ⟨listed, before⟩ := MemoryStore.directoryFor_of_encodedBy contractName supported
    (FollowsMemory.sorted tracks.follows) (MemoryStore.mem_names_of_session? isHeld) encodes
  exact visible ((FollowsMemory.hidden_iff tracks.follows).mpr ⟨_, listed,
    MemoryStore.encodedBy_directoryFor supported, name, held, lt_of_le_of_ne before apart, isHeld,
    keyed⟩)

/-- A store that lists one session for every key goes on to do so exactly if the session that is
saved does not overlook the one before. -/
theorem oneEach_put_iff (tracks : recorded.Tracks memory) (one : memory.OneEach)
    {session : Session} {key : SessionKey} (nameable : session.IsNameable)
    (keyed : session.key = .ok key) :
    (memory.put (memory.directoryFor key session.contractName) (some session)).OneEach ↔
      ¬ DirectoryView.Hidden recorded.store key := by
  have supported := nameable.isSupported keyed
  constructor
  · intro oneAfter hidden
    obtain ⟨first, listed, encoded, name, held, less, isHeld, heldKeyed⟩ :=
      (FollowsMemory.hidden_iff tracks.follows).mp hidden
    have before := (MemoryStore.directoryFor_of_encodedBy session.contractName supported
      (FollowsMemory.sorted tracks.follows) listed encoded).2
    have apart : memory.directoryFor key session.contractName ≠ name :=
      ne_of_lt (lt_of_le_of_lt before less)
    refine apart (oneAfter ?_ ?_ (keyed.trans heldKeyed.symm))
    · rw [MemoryStore.session?_put, if_pos rfl]
    · rw [MemoryStore.session?_put, if_neg apart, isHeld]
  · intro visible name other left right isLeft isRight same
    rw [MemoryStore.session?_put] at isLeft isRight
    split at isLeft <;> split at isRight
    · rename_i here here'
      exact here.symm.trans here'
    · rename_i here _
      obtain rfl := Option.some.inj isLeft
      exact here ▸ tracks.directoryFor_eq supported visible isRight (same.symm.trans keyed) _
    · rename_i here
      obtain rfl := Option.some.inj isRight
      exact here ▸ (tracks.directoryFor_eq supported visible isLeft (same.trans keyed) _).symm
    · exact one isLeft isRight same

/-- One change: the store goes on to list one session for every key, the last one, unless the change
overlooks a session. -/
theorem apply_oneEach_iff (tracks : recorded.Tracks memory) (one : recorded.OneEach)
    {change : StoreChange} (mayApply : change.MayApply recorded.store)
    (retains : ∀ session, change = .save session → FollowsMemory.Retains σ session) :
    (∃ later, (recorded.apply change).Tracks later) ∧
      ((recorded.apply change).OneEach ↔ ¬ change.Overlooks recorded.store) := by
  have oneInMemory := tracks.oneEach_iff.mp one
  cases change with
  | register name =>
      obtain ⟨later, tracksAfter, same⟩ := tracks.register mayApply
      refine ⟨⟨later, tracksAfter⟩, iff_of_true (tracksAfter.oneEach_iff.mpr ?_) id⟩
      intro name other session held isHeld isHeldToo
      exact oneInMemory ((same name).symm.trans isHeld) ((same other).symm.trans isHeldToo)
  | save session =>
      cases keyed : session.key with
      | error invalid =>
          rw [apply_save_of_invalid keyed]
          refine ⟨⟨memory, tracks⟩, iff_of_true one ?_⟩
          rintro ⟨key, keyedToo, _⟩
          cases keyed.symm.trans keyedToo
      | ok key =>
          have overlooks_iff : (StoreChange.save session).Overlooks recorded.store ↔
              DirectoryView.Hidden recorded.store key := by
            refine ⟨fun ⟨other, keyedToo, hidden⟩ => ?_, fun hidden => ⟨key, keyed, hidden⟩⟩
            obtain rfl := Except.ok.inj (keyed.symm.trans keyedToo)
            exact hidden
          rw [overlooks_iff]
          obtain tracksAfter | ⟨refused, new⟩ := tracks.save mayApply (retains session rfl) keyed
          · exact ⟨⟨_, tracksAfter⟩, tracksAfter.oneEach_iff.trans
              (tracks.oneEach_put_iff oneInMemory mayApply keyed)⟩
          · rw [refused]
            refine ⟨⟨memory, tracks⟩, iff_of_true one fun hidden => ?_⟩
            -- What is hidden is so behind a directory, and none has to be made then.
            obtain ⟨first, listed, encoded, _⟩ :=
              (FollowsMemory.hidden_iff tracks.follows).mp hidden
            exact new (MemoryStore.directoryFor_of_encodedBy _ (mayApply.isSupported keyed)
              (FollowsMemory.sorted tracks.follows) listed encoded).1

/-- A history: the store lists one session for every key, the last one, after every change exactly
if no change overlooks a session. -/
theorem atEach_oneEach_iff (tracks : recorded.Tracks memory) (one : recorded.OneEach)
    {changes : List StoreChange}
    (mayApply : recorded.AtEach (fun recorded change => change.MayApply recorded.store) changes)
    (retains : ∀ session, .save session ∈ changes → FollowsMemory.Retains σ session) :
    recorded.AtEach (fun recorded change => (recorded.apply change).OneEach) changes ↔
      recorded.AtEach (fun recorded change => ¬ change.Overlooks recorded.store) changes := by
  -- The later changes are compared only after a change that kept one session for every key.
  induction changes generalizing recorded memory with
  | nil => exact Iff.rfl
  | cons change others inductionHypothesis =>
      obtain ⟨mayApplyFirst, mayApplyLater⟩ := mayApply
      obtain ⟨⟨later, tracksAfter⟩, first⟩ := tracks.apply_oneEach_iff one mayApplyFirst
        fun session same => retains session (same ▸ List.mem_cons_self)
      have rest (oneAfter : (recorded.apply change).OneEach) :=
        inductionHypothesis tracksAfter oneAfter mayApplyLater
          fun session member => retains session (List.mem_cons_of_mem change member)
      exact (and_congr_right rest).trans (and_congr_left' first)

/-- Nothing is hidden as long as every directory has a session. -/
theorem not_hidden (tracks : recorded.Tracks memory) (one : memory.OneEach)
    (complete : ∀ name ∈ names memory.directories, (memory.session? name).isSome = true)
    (key : SessionKey) : ¬ DirectoryView.Hidden recorded.store key := by
  intro hidden
  obtain ⟨first, listed, encoded, name, held, less, isHeld, keyed⟩ :=
    (FollowsMemory.hidden_iff tracks.follows).mp hidden
  obtain ⟨session, isSession⟩ := Option.isSome_iff_exists.mp (complete first listed)
  obtain ⟨itsKey, itsKeyed, encodes⟩ := tracks.encoded isSession
  obtain rfl := encoded.unique encodes
  exact absurd (one isSession isHeld (itsKeyed.trans keyed.symm)) (ne_of_lt less)

/-- As long as sessions are saved and no directories registered, each session takes the place of the
one before of its key. -/
theorem atEach_oneEach_of_saves (tracks : recorded.Tracks memory) (one : memory.OneEach)
    (complete : ∀ name ∈ names memory.directories, (memory.session? name).isSome = true)
    {sessions : List Session} (nameable : ∀ session ∈ sessions, session.IsNameable)
    (retains : ∀ session ∈ sessions, FollowsMemory.Retains σ session) :
    recorded.AtEach (fun recorded change => (recorded.apply change).OneEach)
      (sessions.map .save) := by
  induction sessions generalizing recorded memory with
  | nil => trivial
  | cons session others inductionHypothesis =>
      obtain ⟨nameableFirst, nameableLater⟩ := List.forall_mem_cons.mp nameable
      obtain ⟨retainsFirst, retainsLater⟩ := List.forall_mem_cons.mp retains
      have unchanged (same : recorded.apply (.save session) = recorded) :
          recorded.AtEach (fun recorded change => (recorded.apply change).OneEach)
            ((session :: others).map .save) := by
        rw [List.map_cons, AtEach, same]
        refine ⟨tracks.oneEach_iff.mpr one, ?_⟩
        exact inductionHypothesis tracks one complete nameableLater retainsLater
      cases keyed : session.key with
      | error invalid => exact unchanged (apply_save_of_invalid keyed)
      | ok key =>
          obtain tracksAfter | ⟨refused, _⟩ := tracks.save nameableFirst retainsFirst keyed
          · have oneAfter := (tracks.oneEach_put_iff one nameableFirst keyed).mpr
              (tracks.not_hidden one complete key)
            refine ⟨tracksAfter.oneEach_iff.mpr oneAfter, inductionHypothesis tracksAfter oneAfter
              (fun name listed => ?_) nameableLater retainsLater⟩
            rw [MemoryStore.session?_put]
            split
            · rfl
            · rename_i other
              exact complete name ((mem_names_insert.mp listed).resolve_left (Ne.symm other))
          · exact unchanged refused

/-- A store that follows the empty one in memory has no sessions. -/
theorem empty {store : σ} {keyMatch : KeyMatch}
    (follows : FollowsMemory.Follows { keyMatch } store) :
    (Recorded.mk store fun _ => none).Tracks { keyMatch } where
  follows := follows
  encoded held := by cases held
  remembered held := by cases held
  held isLast := by cases isLast

/-- An empty store lists what was saved last, which is nothing. -/
theorem empty_oneEach {store : σ} {keyMatch : KeyMatch}
    (follows : FollowsMemory.Follows { keyMatch } store) :
    (Recorded.mk store fun _ => none).OneEach :=
  (Tracks.empty follows).oneEach_iff.mpr fun _ _ _ _ held => by cases held

end Tracks

end Recorded

namespace MemoryStore

/-- An empty store in memory follows itself. -/
theorem follows_empty (keyMatch : KeyMatch) :
    FollowsMemory.Follows { keyMatch } ({ keyMatch } : MemoryStore) :=
  ⟨rfl, sorted_nil, List.forall_mem_nil _⟩

end MemoryStore

namespace Recorded

/-- In memory and in a data directory, from an empty store: after every change of a history the
store lists one session for every key, the one that was saved last, exactly if no session is saved
while the one before of its key stands in a directory behind another one that encodes the key. -/
theorem one_session_each_iff (changes : List StoreChange) :
    (∀ keyMatch : KeyMatch,
      let start : Recorded MemoryStore := { store := { keyMatch } }
      start.AtEach (fun recorded change => change.MayApply recorded.store) changes →
      (start.AtEach (fun recorded change => (recorded.apply change).OneEach) changes ↔
        start.AtEach (fun recorded change => ¬ change.Overlooks recorded.store) changes)) ∧
    ∀ (place : Place) (disk : DirectoryStore), DirectoryStore.IsEmpty place disk →
      let start : Recorded DirectoryStore := { store := disk }
      start.AtEach (fun recorded change => change.MayApply recorded.store) changes →
      (∀ session, .save session ∈ changes → Session.read? session.write = some session) →
      (start.AtEach (fun recorded change => (recorded.apply change).OneEach) changes ↔
        start.AtEach (fun recorded change => ¬ change.Overlooks recorded.store) changes) := by
  constructor
  · intro keyMatch start mayApply
    have follows := MemoryStore.follows_empty keyMatch
    exact (Tracks.empty follows).atEach_oneEach_iff (Tracks.empty_oneEach follows) mayApply
      fun _ _ => trivial
  · intro place disk empty start mayApply retains
    have follows : FollowsMemory.Follows { keyMatch := disk.keyMatch } disk :=
      ⟨place, empty.mirrors⟩
    exact (Tracks.empty follows).atEach_oneEach_iff (Tracks.empty_oneEach follows) mayApply retains

/-- A directory that was left over is found by the first save, and by the next. -/
theorem one_session_each_iff_leftover :
    let changes : List StoreChange := [.register (vaultKey.directoryName "Vault"),
      .save (vaultSession none), .save (vaultSession (some "2024-05-01"))]
    let inMemory : Recorded MemoryStore := { store := { keyMatch := .exact } }
    let onDisk : Recorded DirectoryStore := { store := .atRoot .exact }
    (inMemory.AtEach (fun recorded change => change.MayApply recorded.store) changes ∧
      DirectoryStore.IsEmpty ["sessions"] onDisk.store ∧
      onDisk.AtEach (fun recorded change => change.MayApply recorded.store) changes ∧
      ∀ session, .save session ∈ changes → Session.read? session.write = some session) ∧
    (inMemory.AtEach (fun recorded change => (recorded.apply change).OneEach) changes ↔
      inMemory.AtEach (fun recorded change => ¬ change.Overlooks recorded.store) changes) ∧
    (onDisk.AtEach (fun recorded change => (recorded.apply change).OneEach) changes ↔
      onDisk.AtEach (fun recorded change => ¬ change.Overlooks recorded.store) changes) := by
  intro changes inMemory onDisk
  have empty := DirectoryStore.isEmpty_atRoot .exact
  have follows : FollowsMemory.Follows { keyMatch := .exact } (DirectoryStore.atRoot .exact) :=
    ⟨_, empty.mirrors⟩
  have isName := isDirectoryName_vault.isName
  have inMemoryAllowed :
      inMemory.AtEach (fun recorded change => change.MayApply recorded.store) changes :=
    ⟨⟨isName, fun _ => FollowsMemory.not_complete_empty (MemoryStore.follows_empty .exact)⟩,
      isNameable_vaultSession none, isNameable_vaultSession _, trivial⟩
  have onDiskAllowed :
      onDisk.AtEach (fun recorded change => change.MayApply recorded.store) changes :=
    ⟨⟨isName, fun _ => FollowsMemory.not_complete_empty follows⟩,
      isNameable_vaultSession none, isNameable_vaultSession _, trivial⟩
  have retained : ∀ session, .save session ∈ changes →
      Session.read? session.write = some session := by
    intro session saved
    obtain rfl | rfl : session = vaultSession none ∨
        session = vaultSession (some "2024-05-01") := by
      simpa [changes] using saved
    · exact read?_write_vaultSession none
    · exact read?_write_vaultSession _
  obtain ⟨memory, disk⟩ := one_session_each_iff changes
  exact ⟨⟨inMemoryAllowed, empty, onDiskAllowed, retained⟩, memory .exact inMemoryAllowed,
    disk _ _ empty onDiskAllowed retained⟩

/-- A session is saved, the directory of its key without a name is registered, and the session is
saved again: the store lists both. -/
theorem second_session_of_key :
    ¬ ∀ (keyMatch : KeyMatch) (changes : List StoreChange),
      (Recorded.mk ({ keyMatch } : MemoryStore) fun _ => none).AtEach
        (fun recorded change => change.MayApply recorded.store) changes →
      (Recorded.mk ({ keyMatch } : MemoryStore) fun _ => none).AtEach
        (fun recorded change => (recorded.apply change).OneEach) changes := by
  intro always
  let changes : List StoreChange := [.save (vaultSession none), .register vaultKey.display,
    .save (vaultSession (some "2024-05-01"))]
  let start : Recorded MemoryStore := { store := { keyMatch := .exact } }
  let full : MemoryStore := ⟨.exact, [(vaultKey.directoryName "Vault", some (vaultSession none))]⟩
  let both : MemoryStore := ⟨.exact, [(vaultKey.display, none),
    (vaultKey.directoryName "Vault", some (vaultSession none))]⟩
  have first : vaultKey.display < vaultKey.directoryName "Vault" :=
    vaultKey.display_lt_directoryName (by decide)
  have saved : (start.apply (.save (vaultSession none))).store = full :=
    congrArg Prod.snd (start.store.save_of_key (key_vaultSession none))
  have registered : ((start.apply (.save (vaultSession none))).apply
      (.register vaultKey.display)).store = both := by
    change ((start.apply (.save (vaultSession none))).store).addIncomplete _ = both
    rw [saved]
    simp only [MemoryStore.addIncomplete, full, both, Json.SortedFields.insert, if_pos first]
  have isName : Path.IsName vaultKey.display :=
    @SessionKey.isName_directoryName vaultKey "" (by decide) (by decide) (by decide) (by decide)
  have free (path : Path) : ¬ DirectoryView.Complete full vaultKey.display path := by
    rintro ⟨named, listing, member⟩
    obtain rfl := Except.ok.inj listing
    exact absurd (congrArg Prod.fst (List.mem_singleton.mp member)) (ne_of_lt first)
  have mayApply : start.AtEach (fun recorded change => change.MayApply recorded.store) changes :=
    ⟨isNameable_vaultSession none, ⟨isName, saved ▸ free⟩, isNameable_vaultSession _, trivial⟩
  have follows := MemoryStore.follows_empty .exact
  have visible := ((Tracks.empty follows).atEach_oneEach_iff (Tracks.empty_oneEach follows) mayApply
    fun _ _ => trivial).mp (always .exact changes mayApply)
  refine visible.2.2.1 ⟨vaultKey, key_vaultSession _, ?_⟩
  have encoded : vaultKey.EncodedBy vaultKey.display :=
    SessionKey.encodedBy_directoryName (by decide) ""
  have held : both.session? (vaultKey.directoryName "Vault") = some (vaultSession none) := by
    simp [both, MemoryStore.session?, find?_cons, ne_of_lt first]
  rw [registered]
  exact ⟨_, vaultKey.display, vaultKey.directoryName "Vault", _, vaultSession none, rfl,
    List.mem_cons_self, encoded, first, ⟨_, rfl, List.mem_singleton_self _⟩,
    MemoryStore.load_documentPath_of_isName isDirectoryName_vault.isName held,
    key_vaultSession none⟩

end Recorded

end ContractAtlas

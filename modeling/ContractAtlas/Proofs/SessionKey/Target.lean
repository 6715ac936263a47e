import ContractAtlas.CommandLine.Crawling
import ContractAtlas.Proofs.SessionKey.Page
import ContractAtlas.Proofs.SessionKey.Readers
import ContractAtlas.Store.Memory

/-!
# Normal forms of crawl targets

A crawl target is the page of a block explorer or else what `parse` reads, and its normal form is
the display of its key. The display has no slash, so it is never taken for a page: it is its own
normal form, and the crawl reads the same key from it (`normal_target_is_canonical`). -/

namespace ContractAtlas

open Text

namespace SessionKey

/-- Whether a text is the one text that stands for a key wherever a target is read. -/
structure IsCanonicalText (key : SessionKey) (text : String) : Prop where
  supported : Network.isSupported key.network = true
  read : parse text = .ok key
  shown : key.display = text
  normalized : normalizeTarget text = .ok text

/-- A text without a slash has no scheme to lose. -/
theorem withoutScheme_of_not_mem {url : String} (absent : '/' ∉ url.toList) :
    withoutScheme url = url := by
  have noScheme (scheme : String) (slash : '/' ∈ scheme.toList) :
      stripLeading? scheme url = none :=
    stripLeading?_eq_none_iff.mpr fun leads => absent (leads.subset slash)
  simp [withoutScheme, noScheme "https://" (by decide), noScheme "http://" (by decide)]

/-- A text without a slash is no page of a block explorer. -/
theorem ofExplorerUrl?_of_not_mem {url : String} (absent : '/' ∉ url.toList) :
    ofExplorerUrl? url = none := by
  have parts : domainAndPath (withoutScheme url) = (url, "") := by
    rw [withoutScheme_of_not_mem absent, domainAndPath_of_not_mem absent]
  have noAddress : (splitAll '/' "").findSome? Address.parse? = none := by decide
  rw [Option.eq_none_iff_forall_ne_some]
  intro key page
  cases noAddress.symm.trans ((ofExplorerUrl?_eq_some_iff parts).mp page).1

/-- The page of an explorer gives a key on a supported network. -/
theorem isSupported_of_ofExplorerUrl? {url : String} {key : SessionKey}
    (page : ofExplorerUrl? url = some key) : Network.isSupported key.network = true := by
  obtain ⟨_, network, found, named⟩ := (ofExplorerUrl?_eq_some_iff rfl).mp page
  exact List.any_eq_true.mpr ⟨network, List.mem_of_find?_eq_some found, decide_eq_true named⟩

/-- The key of a target is on a supported network. -/
theorem isSupported_of_crawlTarget {target : String} {key : SessionKey}
    (read : crawlTarget target = .ok key) : Network.isSupported key.network = true := by
  unfold crawlTarget at read
  split at read
  · rename_i page
    obtain rfl := Except.ok.inj read
    exact isSupported_of_ofExplorerUrl? page
  · exact isSupported_of_parse read

/-- A target without a slash is read as the text of a key. -/
theorem normalizeTarget_of_not_mem {target : String} (absent : '/' ∉ target.toList) :
    normalizeTarget target = (parse target).map display := by
  unfold normalizeTarget crawlTarget
  rw [ofExplorerUrl?_of_not_mem absent]

/-- The text of a key on a supported network is in normal form. -/
theorem isCanonicalText_display {key : SessionKey}
    (supported : Network.isSupported key.network = true) :
    key.IsCanonicalText key.display := by
  have plain := (Network.plain_of_isSupported supported).2
  have read : parse key.display = .ok key :=
    EncodedBy.parse_eq ⟨none, ofDirectoryName?_display plain⟩ supported
  exact ⟨supported, read, rfl, by
    rw [normalizeTarget_of_not_mem (slash_not_mem_display supported), read]; rfl⟩

/-- The normal form of a target is that of the key it denotes. -/
theorem exists_of_normalizeTarget {target normal : String}
    (normalized : normalizeTarget target = .ok normal) :
    ∃ key, crawlTarget target = .ok key ∧ key.IsCanonicalText normal := by
  unfold normalizeTarget at normalized
  cases read : crawlTarget target with
  | error invalid =>
      rw [read] at normalized
      cases normalized
  | ok key =>
      rw [read] at normalized
      obtain rfl := Except.ok.inj normalized
      exact ⟨key, rfl, isCanonicalText_display (isSupported_of_crawlTarget read)⟩

end SessionKey

/-- A crawl that is planned from a target starts from its normal form. -/
theorem CommandLine.exists_of_crawlPlan {arguments : CrawlArguments} {normal : String}
    {level : Crawl.Level} (planned : crawlPlan arguments = .ok (some normal, level)) :
    ∃ target, arguments.target = some target ∧ normalizeTarget target = .ok normal := by
  unfold crawlPlan at planned
  cases given : arguments.target with
  | none =>
      rw [given] at planned
      cases leveled : Crawl.Level.ofNumber? arguments.level with
      | error fault => rw [leveled] at planned; cases planned
      | ok chosen => rw [leveled] at planned; cases planned
  | some target =>
      rw [given] at planned
      dsimp only at planned
      cases normalized : normalizeTarget target with
      | error invalid => rw [normalized] at planned; cases planned
      | ok text =>
          rw [normalized] at planned
          cases leveled : Crawl.Level.ofNumber? arguments.level with
          | error fault => rw [leveled] at planned; cases planned
          | ok chosen =>
              rw [leveled] at planned
              obtain ⟨same, _⟩ := Prod.mk.inj (Except.ok.inj planned)
              exact ⟨target, rfl, normalized.trans (congrArg _ (Option.some.inj same))⟩

/-- Normal forms of crawl targets are canonical. Every text that has one comes to the same text at
every later stage: the normal form is read as the key of the target, on a supported network, it is
the display of that key and its own normal form. A text without a slash has a normal form exactly if
`parse` reads it, the display of what it reads. So a crawl never rejects a target that the command
line has accepted: it starts with its key. -/
theorem normal_target_is_canonical :
    (∀ target normal, normalizeTarget target = .ok normal →
      ∃ key, crawlTarget target = .ok key ∧ key.IsCanonicalText normal) ∧
    (∀ target : String, '/' ∉ target.toList →
      normalizeTarget target = (SessionKey.parse target).map SessionKey.display) ∧
    (∀ arguments normal level, CommandLine.crawlPlan arguments = .ok (some normal, level) →
      ∃ key, key.IsCanonicalText normal ∧
        ∀ {m : Type -> Type} [Monad m] {σ : Type} [SessionStore σ]
          (dispatch : Crawl.Dispatcher m σ) (passLimit : Nat) (store : σ),
          Crawl.crawl dispatch passLimit level (some normal) store = do
            let (run, store) <- Crawl.sendTarget dispatch key { report := { level } } store
            Crawl.runPasses dispatch passLimit run store) := by
  refine ⟨fun _ _ => SessionKey.exists_of_normalizeTarget,
    fun _ => SessionKey.normalizeTarget_of_not_mem, fun arguments normal level planned => ?_⟩
  obtain ⟨_, _, normalized⟩ := CommandLine.exists_of_crawlPlan planned
  obtain ⟨key, _, canonical⟩ := SessionKey.exists_of_normalizeTarget normalized
  refine ⟨key, canonical, fun dispatch passLimit store => ?_⟩
  simp only [Crawl.crawl, canonical.read]

/-- A page with a contract's address in its path and its network as a part of the domain, and a
padded bare address. -/
theorem normal_target_is_canonical_page :
    let page := "https://goerli.etherscan.io/address/0x1111111111111111111111111111111111111111#code"
    let normal := "goerli:0x1111111111111111111111111111111111111111"
    let bare := " 0x1111111111111111111111111111111111111111\n"
    let arguments : CommandLine.CrawlArguments := { target := some page, level := some 0 }
    (normalizeTarget page = .ok normal ∧
      ∃ key, crawlTarget page = .ok key ∧ key.IsCanonicalText normal) ∧
    ('/' ∉ bare.toList ∧
      normalizeTarget bare = (SessionKey.parse bare).map SessionKey.display) ∧
    (CommandLine.crawlPlan arguments = .ok (some normal, .unbounded) ∧
      ∃ key, key.IsCanonicalText normal ∧
        ∀ (dispatch : Crawl.Dispatcher Id MemoryStore) (passLimit : Nat) (store : MemoryStore),
          Crawl.crawl dispatch passLimit .unbounded (some normal) store = do
            let (run, store) <-
              Crawl.sendTarget dispatch key { report := { level := .unbounded } } store
            Crawl.runPasses dispatch passLimit run store) := by
  intro page normal bare arguments
  obtain ⟨canonical, slashless, planned⟩ := normal_target_is_canonical
  have normalized : normalizeTarget page = .ok normal := by decide +kernel
  have noSlash : '/' ∉ bare.toList := by decide
  have plan : CommandLine.crawlPlan arguments = .ok (some normal, .unbounded) := by
    unfold CommandLine.crawlPlan
    simp only [arguments, normalized]
    rfl
  obtain ⟨key, isCanonical, starts⟩ := planned arguments normal .unbounded plan
  exact ⟨⟨normalized, canonical page normal normalized⟩, ⟨noSlash, slashless bare noSlash⟩,
    plan, key, isCanonical, fun dispatch passLimit store => starts dispatch passLimit store⟩

end ContractAtlas

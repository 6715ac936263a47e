import ContractAtlas.Proofs.Store.Naming

/-!
# Pages of block explorers

A URL is cut into a domain and a path, and the path into segments. The address of a page is the
first segment that denotes one, the network is the first one whose host occurs in the domain. The
table of networks is ordered by the length of the host, longest first, and no host is there twice,
so a host that is found is no proper part of another one that occurs in the domain
(`Network.eq_of_infix_of_find?`). `explorer_pages_are_recognised` puts this together with the pages
that are written with the host of a network. -/

namespace ContractAtlas

open Text

namespace Text

/-- A text is stripped of its start exactly when it has it. -/
theorem stripLeading?_eq_some_iff {leading text rest : String} :
    stripLeading? leading text = some rest ↔ text = leading ++ rest := by
  rw [← String.toList_inj, String.toList_append, stripLeading?]
  constructor
  · intro stripped
    split at stripped
    · rename_i leads
      obtain ⟨later, split⟩ := List.isPrefixOf_iff_prefix.mp leads
      obtain rfl := Option.some.inj stripped
      simp [← split, ← String.length_toList]
    · cases stripped
  · intro split
    simp [split, ← String.length_toList]

/-- A text cannot be stripped of what it does not start with. -/
theorem stripLeading?_eq_none_iff {leading text : String} :
    stripLeading? leading text = none ↔ ¬ leading.toList <+: text.toList := by
  simp [stripLeading?]

/-- Two texts that go on with a separator after parts without it have the same part. -/
theorem eq_of_append_cons_eq {separator : Char} {before after other later : List Char}
    (absent : separator ∉ before) (absentToo : separator ∉ other)
    (same : before ++ separator :: after = other ++ separator :: later) : before = other := by
  have split := splitOnceChars_append absent after
  rw [same, splitOnceChars_append absentToo] at split
  exact (congrArg Prod.fst split).symm

/-- Pieces without a separator that are joined by it are had back, whatever comes behind the next
separator. -/
theorem exists_splitAllChars_intercalate {separator : Char} {pieces : List (List Char)}
    {last ending : List Char} (plain : ∀ piece ∈ pieces, separator ∉ piece)
    (plainLast : separator ∉ last) (ends : ∀ first ∈ ending.head?, first = separator) :
    ∃ later, splitAllChars separator ([separator].intercalate (pieces ++ [last]) ++ ending) =
      pieces ++ last :: later := by
  induction pieces with
  | nil =>
      cases ending with
      | nil => exact ⟨[], by simp [splitAllChars_of_not_mem plainLast]⟩
      | cons first rest =>
          obtain rfl := ends first rfl
          exact ⟨splitAllChars first rest, by
            simp [splitAllChars_append, splitAllChars_of_not_mem plainLast]⟩
  | cons piece others inductionHypothesis =>
      obtain ⟨plainPiece, plainOthers⟩ := List.forall_mem_cons.mp plain
      obtain ⟨later, split⟩ := inductionHypothesis plainOthers
      refine ⟨later, ?_⟩
      rw [List.cons_append, List.intercalate_cons_of_ne_nil (by simp)]
      simp [splitAllChars_append, splitAllChars_of_not_mem plainPiece, ← split]

/-- What holds of the separator and in every piece holds in the joined text. -/
theorem forall_mem_intercalate {separator : Char} {pieces : List (List Char)} {holds : Char → Prop}
    (ofSeparator : holds separator)
    (ofPieces : ∀ piece ∈ pieces, ∀ character ∈ piece, holds character) :
    ∀ character ∈ [separator].intercalate pieces, holds character := by
  induction pieces with
  | nil => exact List.forall_mem_nil _
  | cons piece later inductionHypothesis =>
      obtain ⟨ofPiece, ofLater⟩ := List.forall_mem_cons.mp ofPieces
      cases later with
      | nil => simpa using ofPiece
      | cons next others =>
          rw [List.intercalate_cons_cons, List.forall_mem_append, List.forall_mem_append]
          exact ⟨⟨ofPiece, by simpa using ofSeparator⟩, inductionHypothesis ofLater⟩

end Text

/-! ## Networks in a domain -/

namespace Network

/-- Longer hosts come first in the table, and no host is there twice. -/
theorem pairwise_supported : supported.Pairwise fun earlier later =>
    later.host.toList.length <= earlier.host.toList.length ∧ later.host ≠ earlier.host := by
  decide

/-- No host that occurs in the domain properly contains the one that is found. -/
theorem eq_of_infix_of_find? {domain : String} {network other : Network}
    (found : supported.find? (fun network => contains domain network.host) = some network)
    (member : other ∈ supported) (occurs : other.host.toList <:+: domain.toList)
    (within : network.host.toList <:+: other.host.toList) : other = network := by
  obtain ⟨_, before, after, table, absent⟩ := List.find?_eq_some_iff_append.mp found
  have ordered := pairwise_supported
  rw [table] at member ordered
  obtain early | late := List.mem_append.mp member
  · have unseen := absent other early
    rw [contains, containsChars_eq_true_iff.mpr occurs] at unseen
    cases unseen
  · obtain rfl | late := List.mem_cons.mp late
    · rfl
    · obtain ⟨short, apart⟩ :=
        List.rel_of_pairwise_cons (List.pairwise_append.mp ordered).2.1 late
      have same := within.eq_of_length_le short
      exact absurd (String.toList_inj.mp same.symm) apart

/-- No host can be taken for a scheme, nor has it a slash. -/
theorem plain_host : ∀ network ∈ supported, ∀ label ∈ ["", "www."],
    '/' ∉ (label ++ network.host).toList ∧
      label ++ network.host ≠ "https:" ∧ label ++ network.host ≠ "http:" := by
  decide

/-- The host of a network finds the network, also behind the most common label. -/
theorem find?_contains_host : ∀ network ∈ supported, ∀ label ∈ ["", "www."],
    supported.find? (fun other => contains (label ++ network.host) other.host) = some network := by
  decide

end Network

namespace SessionKey

/-! ## Domains -/

/-- The schemes that a page may be given with. -/
def pageSchemes : List String := ["https://", "http://"]

/-- Whether a text leads a URL as its scheme. It is empty for a URL that starts with neither. -/
def LeadsAsScheme (scheme url : String) : Prop :=
  scheme ∈ pageSchemes ∧ scheme.toList <+: url.toList ∨
    scheme = "" ∧ ∀ other ∈ pageSchemes, ¬ other.toList <+: url.toList

/-- Whether a URL has a domain, which reaches from the scheme to the first slash. -/
def HasDomain (url domain : String) : Prop :=
  '/' ∉ domain.toList ∧ ∃ scheme rest : String, url = scheme ++ domain ++ rest ∧
    LeadsAsScheme scheme url ∧ ∀ first ∈ rest.toList.head?, first = '/'

/-- Every URL is its scheme, which may be empty, and what is left without it. -/
theorem exists_scheme (url : String) :
    ∃ scheme, url = scheme ++ withoutScheme url ∧ LeadsAsScheme scheme url := by
  rw [withoutScheme]
  cases secure : stripLeading? "https://" url with
  | some rest =>
      have split := stripLeading?_eq_some_iff.mp secure
      exact ⟨"https://", split, .inl ⟨by decide, by simp [split]⟩⟩
  | none =>
      cases plain : stripLeading? "http://" url with
      | some rest =>
          have split := stripLeading?_eq_some_iff.mp plain
          exact ⟨"http://", split, .inl ⟨by decide, by simp [split]⟩⟩
      | none =>
          refine ⟨"", by simp, .inr ⟨rfl, ?_⟩⟩
          simpa [pageSchemes] using
            ⟨stripLeading?_eq_none_iff.mp secure, stripLeading?_eq_none_iff.mp plain⟩

/-- A text without a slash is a domain without a path. -/
theorem domainAndPath_of_not_mem {text : String} (noSlash : '/' ∉ text.toList) :
    domainAndPath text = (text, "") := by
  have whole : splitOnce '/' text = (text, none) := splitOnce_eq_iff.mpr ⟨noSlash, by simp⟩
  rw [domainAndPath, whole]
  rfl

/-- The domain ends at the first slash, and the path where a query or a fragment starts. -/
theorem domainAndPath_append {domain : String} (noSlash : '/' ∉ domain.toList) (path : String) :
    domainAndPath (domain ++ "/" ++ path) = (domain, String.ofList (path.toList.takeWhile
      fun character => character != '#' && character != '?')) := by
  have cut : splitOnce '/' (domain ++ "/" ++ path) = (domain, some path) :=
    splitOnce_eq_iff.mpr ⟨noSlash, by simp⟩
  rw [domainAndPath, cut]
  rfl

/-- The part of a URL in which the host is looked for is its domain. -/
theorem hasDomain (url : String) : HasDomain url (domainAndPath (withoutScheme url)).1 := by
  obtain ⟨scheme, split, leads⟩ := exists_scheme url
  obtain absent | ⟨domain, path, absent, cut⟩ :=
    splitOnceChars_cases '/' (withoutScheme url).toList
  · rw [domainAndPath_of_not_mem absent]
    exact ⟨absent, scheme, "", by simpa using split, leads, by simp⟩
  · have parts : withoutScheme url = String.ofList domain ++ "/" ++ String.ofList path :=
      String.toList_inj.mp (by simpa using cut)
    have noSlash : '/' ∉ (String.ofList domain).toList := by simpa using absent
    rw [parts, domainAndPath_append noSlash]
    refine ⟨noSlash, scheme, "/" ++ String.ofList path, ?_, leads, by simp⟩
    rw [split, parts]
    simp [String.append_assoc]

/-! ## Pages -/

/-- The key of a page is the first address among the segments of its path, on the first network
whose host occurs in its domain. -/
theorem ofExplorerUrl?_eq_some_iff {url domain path : String} {key : SessionKey}
    (parts : domainAndPath (withoutScheme url) = (domain, path)) :
    ofExplorerUrl? url = some key ↔
      (splitAll '/' path).findSome? Address.parse? = some key.address ∧
        ∃ network, Network.supported.find? (fun network => contains domain network.host) =
          some network ∧ network.name = key.network := by
  obtain ⟨keyNetwork, keyAddress⟩ := key
  unfold ofExplorerUrl?
  simp only [parts]
  cases (splitAll '/' path).findSome? Address.parse? with
  | none => simp
  | some address =>
      simp only [Option.map_eq_some_iff, SessionKey.mk.injEq, Option.some.injEq]
      constructor
      · rintro ⟨network, found, name, same⟩
        exact ⟨same, network, found, name⟩
      · rintro ⟨same, network, found, name⟩
        exact ⟨network, found, name, same⟩

/-- The scheme of a page is taken off its URL. -/
theorem withoutScheme_append_of_mem {scheme : String} (isScheme : scheme ∈ pageSchemes)
    (rest : String) : withoutScheme (scheme ++ rest) = rest := by
  have stripped := stripLeading?_eq_some_iff.mpr (rfl : scheme ++ rest = scheme ++ rest)
  obtain rfl | rfl : scheme = "https://" ∨ scheme = "http://" := by simpa [pageSchemes] using isScheme
  · rw [withoutScheme, stripped]
  · have notSecure : stripLeading? "https://" ("http://" ++ rest) = none := by
      rw [stripLeading?_eq_none_iff, String.toList_append]
      simp
    rw [withoutScheme, notSecure, stripped]
    rfl

/-- A URL without a scheme is left as it is, where its domain cannot be taken for one. -/
theorem withoutScheme_append_of_domain {domain : String} (noSlash : '/' ∉ domain.toList)
    (noScheme : domain ≠ "https:" ∧ domain ≠ "http:") (path : String) :
    withoutScheme (domain ++ "/" ++ path) = domain ++ "/" ++ path := by
  have notLed (leading : String) (plain : '/' ∉ leading.toList) (apart : domain ≠ leading) :
      stripLeading? (leading ++ "//") (domain ++ "/" ++ path) = none := by
    rw [stripLeading?_eq_none_iff]
    rintro ⟨rest, same⟩
    have both : domain.toList ++ '/' :: path.toList = leading.toList ++ '/' :: '/' :: rest := by
      simpa using same.symm
    exact apart (String.toList_inj.mp (eq_of_append_cons_eq noSlash plain both))
  have secure := notLed "https:" (by decide) noScheme.1
  have plain := notLed "http:" (by decide) noScheme.2
  rw [withoutScheme, show "https://" = "https:" ++ "//" from rfl, secure,
    show "http://" = "http:" ++ "//" from rfl, plain]
  rfl

/-- The characters that end a segment of a path. -/
def segmentEnds : List Char := ['/', '#', '?']

/-- A segment ends at a slash, a fragment or a query. -/
theorem forall_segmentEnds_iff {holds : Char → Prop} :
    (∀ mark ∈ segmentEnds, holds mark) ↔ holds '/' ∧ holds '#' ∧ holds '?' := by
  simp [segmentEnds]

/-- No mark that ends a segment stands in the text of an address. -/
theorem not_mem_of_mem_segmentEnds {text : String} {address : Address}
    (read : Address.parse? text = some address) : ∀ mark ∈ segmentEnds, mark ∉ text.toList :=
  forall_segmentEnds_iff.mpr
    ⟨Address.not_mem_of_parse? read (by decide) (by decide) (by decide),
      Address.not_mem_of_parse? read (by decide) (by decide) (by decide),
      Address.not_mem_of_parse? read (by decide) (by decide) (by decide)⟩

/-- The path of a page is cut into the segments that it was put together from, up to the address. -/
theorem exists_splitAll_path {segments : List String} {text rest : String}
    (plain : ∀ segment ∈ segments, ∀ mark ∈ segmentEnds, mark ∉ segment.toList)
    (plainText : ∀ mark ∈ segmentEnds, mark ∉ text.toList)
    (ends : ∀ first ∈ rest.toList.head?, first ∈ segmentEnds) :
    ∃ later, splitAll '/' (String.ofList
        (("/".intercalate (segments ++ [text]) ++ rest).toList.takeWhile
          fun character => character != '#' && character != '?')) = segments ++ text :: later := by
  have noSlash : ∀ piece ∈ segments.map String.toList, '/' ∉ piece :=
    List.forall_mem_map.mpr fun segment member => plain segment member '/' (by decide)
  have kept : ∀ character ∈ ['/'].intercalate (segments.map String.toList ++ [text.toList]),
      (character != '#' && character != '?') = true := by
    refine forall_mem_intercalate (by decide) fun piece member character inPiece => ?_
    have apart : ∀ mark ∈ segmentEnds, mark ∉ piece := by
      obtain ofSegments | ofText := List.mem_append.mp member
      · obtain ⟨segment, isSegment, rfl⟩ := List.mem_map.mp ofSegments
        exact plain segment isSegment
      · obtain rfl := List.mem_singleton.mp ofText
        exact plainText
    obtain ⟨_, noHash, noMark⟩ := forall_segmentEnds_iff.mp apart
    simp [ne_of_mem_of_not_mem inPiece noHash, ne_of_mem_of_not_mem inPiece noMark]
  have slash : ∀ first ∈ (rest.toList.takeWhile
      fun character => character != '#' && character != '?').head?, first = '/' := by
    intro first head
    rw [List.head?_takeWhile, Option.mem_def, Option.filter_eq_some_iff] at head
    have marked := ends first head.1
    simp only [segmentEnds, List.mem_cons, List.not_mem_nil, or_false] at marked
    obtain rfl | rfl | rfl := marked
    · rfl
    · exact absurd head.2 (by decide)
    · exact absurd head.2 (by decide)
  obtain ⟨later, split⟩ :=
    exists_splitAllChars_intercalate noSlash (plainText '/' (by decide)) slash
  refine ⟨later.map String.ofList, ?_⟩
  have joined : ("/".intercalate (segments ++ [text])).toList =
      ['/'].intercalate (segments.map String.toList ++ [text.toList]) := by simp
  rw [splitAll, String.toList_ofList, String.toList_append, joined,
    List.takeWhile_append_of_pos kept, split]
  simp

/-- Pages are recognised by the host of a network and an address. With either scheme or none, with
the most common label before the host or none, after any segments that are no addresses, and
whatever comes behind the address, a URL has the key of the network and the address, which may be
spelled in any letter case. Whenever a URL has a key, the host of its network occurs in the domain
of the URL, and it is no proper part of another supported host that does. -/
theorem explorer_pages_are_recognised :
    (∀ network ∈ Network.supported, ∀ scheme ∈ "" :: pageSchemes, ∀ label ∈ ["", "www."],
      ∀ (segments : List String) (text rest : String) (address : Address),
        (∀ segment ∈ segments, Address.parse? segment = none ∧
          ∀ mark ∈ segmentEnds, mark ∉ segment.toList) →
        Address.parse? text = some address →
        (∀ first ∈ rest.toList.head?, first ∈ segmentEnds) →
          ofExplorerUrl? (scheme ++
            "/".intercalate ((label ++ network.host) :: segments ++ [text]) ++ rest) =
              some ⟨network.name, address⟩) ∧
    (∀ (url : String) (key : SessionKey), ofExplorerUrl? url = some key →
      ∃ domain, HasDomain url domain ∧ ∃ network ∈ Network.supported,
        network.name = key.network ∧ network.host.toList <:+: domain.toList ∧
        ∀ other ∈ Network.supported, other.host.toList <:+: domain.toList →
          network.host.toList <:+: other.host.toList → other = network) := by
  constructor
  · intro network isNetwork scheme isScheme label isLabel segments text rest address plain read ends
    have findsNetwork := Network.find?_contains_host network isNetwork label isLabel
    obtain ⟨noSlash, noScheme⟩ := Network.plain_host network isNetwork label isLabel
    generalize label ++ network.host = domain at findsNetwork noSlash noScheme
    have joined : scheme ++ "/".intercalate (domain :: segments ++ [text]) ++ rest =
        scheme ++ (domain ++ "/" ++ ("/".intercalate (segments ++ [text]) ++ rest)) := by
      rw [List.cons_append, String.intercalate_cons_of_ne_nil (by simp)]
      simp only [String.append_assoc]
    have bare : withoutScheme (scheme ++ "/".intercalate (domain :: segments ++ [text]) ++ rest) =
        domain ++ "/" ++ ("/".intercalate (segments ++ [text]) ++ rest) := by
      rw [joined]
      obtain rfl | isScheme := List.mem_cons.mp isScheme
      · rw [String.empty_append, withoutScheme_append_of_domain noSlash noScheme]
      · exact withoutScheme_append_of_mem isScheme _
    obtain ⟨later, cut⟩ := exists_splitAll_path (fun segment member => (plain segment member).2)
      (not_mem_of_mem_segmentEnds read) ends
    have findsAddress : (segments ++ text :: later).findSome? Address.parse? = some address :=
      List.findSome?_eq_some_iff.mpr
        ⟨segments, text, later, rfl, read, fun segment member => (plain segment member).1⟩
    refine (ofExplorerUrl?_eq_some_iff (by rw [bare, domainAndPath_append noSlash])).mpr ?_
    exact ⟨cut ▸ findsAddress, network, findsNetwork, rfl⟩
  · intro url key page
    have hasDomain := hasDomain url
    rcases parts : domainAndPath (withoutScheme url) with ⟨domain, path⟩
    rw [parts] at hasDomain
    obtain ⟨_, network, found, named⟩ := (ofExplorerUrl?_eq_some_iff parts).mp page
    have occurs : contains domain network.host = true :=
      (List.find?_eq_some_iff_append.mp found).1
    exact ⟨domain, hasDomain, network, List.mem_of_find?_eq_some found, named,
      containsChars_eq_true_iff.mp occurs,
      fun _ member => Network.eq_of_infix_of_find? found member⟩

/-- An address in mixed letter case behind an empty segment and one that is almost an address, with
another address behind it, and a page on a domain that three hosts occur in. -/
theorem explorer_pages_are_recognised_subdomain :
    let network : Network := ⟨"goerli.base", "goerli.basescan.org"⟩
    let segments := ["", "0XaaaaaaaaaaaaaaaaaaaaaaaaaaaaaaaaaaaaAAAA"]
    let text := "0xaaaaaaaaaaaaaaaaaaaaaaaaaaaaaaaaaaaaAAAA"
    let rest := "/0x1111111111111111111111111111111111111111?tab=code#L1"
    let address : Address := ⟨List.replicate 40 ⟨10, by decide⟩, rfl⟩
    let page := "https://etherscan.io.goerli.etherscan.io.example.org/" ++ text
    let key : SessionKey := ⟨"goerli", address⟩
    (network ∈ Network.supported ∧
      (∀ segment ∈ segments, Address.parse? segment = none ∧
        ∀ mark ∈ segmentEnds, mark ∉ segment.toList) ∧
      Address.parse? text = some address ∧ (∀ first ∈ rest.toList.head?, first ∈ segmentEnds) ∧
      ofExplorerUrl? ("http://" ++
        "/".intercalate (("www." ++ network.host) :: segments ++ [text]) ++ rest) =
          some ⟨network.name, address⟩) ∧
    (ofExplorerUrl? page = some key ∧ ∃ domain, HasDomain page domain ∧
      ∃ network ∈ Network.supported, network.name = key.network ∧
        network.host.toList <:+: domain.toList ∧
        ∀ other ∈ Network.supported, other.host.toList <:+: domain.toList →
          network.host.toList <:+: other.host.toList → other = network) := by
  intro network segments text rest address page key
  obtain ⟨recognised, maximal⟩ := explorer_pages_are_recognised
  have isNetwork : network ∈ Network.supported := by decide
  have plain : ∀ segment ∈ segments, Address.parse? segment = none ∧
      ∀ mark ∈ segmentEnds, mark ∉ segment.toList := by
    simp only [forall_segmentEnds_iff]
    decide
  have read : Address.parse? text = some address := by decide
  have ends : ∀ first ∈ rest.toList.head?, first ∈ segmentEnds := by
    simp [rest, segmentEnds]
  have found : ofExplorerUrl? page = some key := by decide +kernel
  exact ⟨⟨isNetwork, plain, read, ends, recognised network isNetwork "http://" (by decide) "www."
    (by decide) segments text rest address plain read ends⟩, found, maximal page key found⟩

end SessionKey

end ContractAtlas

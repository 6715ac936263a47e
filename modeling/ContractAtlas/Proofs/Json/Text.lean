import ContractAtlas.Json.Reader
import ContractAtlas.Proofs.Address
import ContractAtlas.Proofs.Decimal.Layout
import ContractAtlas.Proofs.Json.Value

/-!
# Texts of values read back

The pretty text of a value is read as the written form of the value, up to its numbers, whatever its
strings contain and however deeply it is nested (`read?_toPrettyText_eq_reread`). Where its numbers
are integers, they are the same, too (`read?_toPrettyText`). The proof goes in the two steps of the
reader: the scanner turns the text into the tokens of the value, and the stack machine turns these
into its written form. A number or a word is only complete once a character comes that cannot belong
to it, so every law of the scanner speaks of the text with whatever follows.
-/

namespace ContractAtlas.Json

open Decimal Text

/-! ## Tokens of a value -/

/-- The token that the text of a number is scanned into. -/
def numberToken (number : Number) : Token :=
  match Number.ofLiteral? number.render with
  | some denoted => .number denoted
  | none => .null

mutual

/-- The tokens that the text of a value is scanned into. -/
def tokens : Json → List Token
  | .null => [.null]
  | .bool value => [.bool value]
  | .number value => [numberToken value]
  | .string text => [.string (some text)]
  | .array items => .openArray :: itemTokens items ++ [.closeArray]
  | .object fields => .openObject :: fieldTokens fields ++ [.closeObject]

/-- The tokens of items separated by commas. -/
def itemTokens : List Json → List Token
  | [] => []
  | [item] => tokens item
  | item :: later => tokens item ++ .comma :: itemTokens later

/-- The tokens of fields separated by commas. -/
def fieldTokens : List (String × Json) → List Token
  | [] => []
  | [(name, value)] => .string (some name) :: .colon :: tokens value
  | (name, value) :: later =>
      .string (some name) :: .colon :: tokens value ++ .comma :: fieldTokens later

end

/-- A comma stands between the tokens of two items. -/
theorem itemTokens_cons_cons (item next : Json) (rest : List Json) :
    itemTokens (item :: next :: rest) = item.tokens ++ .comma :: itemTokens (next :: rest) := rfl

/-- The tokens of items start with those of the first. -/
theorem exists_itemTokens_cons (item : Json) (others : List Json) :
    ∃ rest, itemTokens (item :: others) = item.tokens ++ rest := by
  cases others with
  | nil => exact ⟨[], (List.append_nil _).symm⟩
  | cons next rest => exact ⟨_, itemTokens_cons_cons item next rest⟩

/-- A comma stands between the tokens of two fields. -/
theorem fieldTokens_cons_cons (name : String) (value : Json) (next : String × Json)
    (rest : List (String × Json)) :
    fieldTokens ((name, value) :: next :: rest) =
      .string (some name) :: .colon :: value.tokens ++ .comma :: fieldTokens (next :: rest) := rfl

/-! ## The scanner -/

namespace Token

/-- Whether a number or a word ends before some text. -/
def Delimited (later : List Char) : Prop :=
  ∀ character ∈ later.head?, extendsNumber character = false ∧ isLetter character = false

/-- The end of the text ends a number or a word. -/
theorem delimited_nil : Delimited [] := by
  simp [Delimited]

/-- A character that continues neither a number nor a word ends both. -/
theorem delimited_cons {character : Char} {later : List Char}
    (number : extendsNumber character = false) (letter : isLetter character = false) :
    Delimited (character :: later) := by
  simp [Delimited, number, letter]

/-- A line end ends a number or a word. -/
theorem delimited_newLine (level : Nat) (later : List Char) :
    Delimited (newLine level ++ later) :=
  delimited_cons (by decide) (by decide)

/-- One character is scanned by one step, and the later ones from the mode it leads to. -/
theorem scanFrom?_cons {mode next : Mode} {character : Char} {completed : List Token}
    (step : mode.step? character = some (completed, next)) (read : List Token)
    (later : List Char) :
    scanFrom? mode read (character :: later) =
      scanFrom? next (completed.reverse ++ read) later := by
  rw [scanFrom?, step]

/-- A mode that ends before some text has the same effect as the token that ends there. -/
theorem scanFrom?_ended {mode : Mode} {ended : List Token} (ends : mode.ended? = some ended)
    (read : List Token) (later : List Char)
    (passes : ∀ character ∈ later.head?, mode.step? character =
      (Mode.startWith? character).map fun started => (ended ++ started.1, started.2)) :
    scanFrom? mode read later = scanFrom? .ground (ended.reverse ++ read) later := by
  cases later with
  | nil =>
      rw [scanFrom?, scanFrom?, ends]
      simp [Mode.ended?]
  | cons character others =>
      rw [scanFrom?, scanFrom?, passes character rfl, Mode.step?]
      cases Mode.startWith? character with
      | none => rfl
      | some started => simp

/-- A word is complete where it ends. -/
theorem scanFrom?_word {letters : List Char} {token : Token}
    (word : ofWord? letters.reverse = some token) (read : List Token) {later : List Char}
    (delimited : Delimited later) :
    scanFrom? (.word letters) read later = scanFrom? .ground (token :: read) later := by
  have ends : (Mode.word letters).ended? = some [token] := by simp [Mode.ended?, word]
  refine scanFrom?_ended ends read later fun character head => ?_
  rw [Mode.step?, (delimited character head).2, ends]
  cases Mode.startWith? character <;> rfl

/-- A number is complete where it ends. -/
theorem scanFrom?_number {characters : List Char} {value : Option Number}
    (literal : Number.ofLiteral? characters.reverse = some value) (read : List Token)
    {later : List Char} (delimited : Delimited later) :
    scanFrom? (.number characters) read later =
      scanFrom? .ground (.number value :: read) later := by
  have ends : (Mode.number characters).ended? = some [.number value] := by
    simp [Mode.ended?, literal]
  refine scanFrom?_ended ends read later fun character head => ?_
  rw [Mode.step?, (delimited character head).1, ends]
  cases Mode.startWith? character <;> rfl

/-- The word of null is scanned into its token. -/
theorem scan_null (read : List Token) {later : List Char} (delimited : Delimited later) :
    scanFrom? .ground read (['n', 'u', 'l', 'l'] ++ later) =
      scanFrom? .ground (.null :: read) later := by
  have word : ofWord? ['l', 'l', 'u', 'n'].reverse = some .null := rfl
  exact scanFrom?_word word read delimited

/-- The words of truth values are scanned into their tokens. -/
theorem scan_bool (value : Bool) (read : List Token) {later : List Char}
    (delimited : Delimited later) :
    scanFrom? .ground read (renderBool value ++ later) =
      scanFrom? .ground (.bool value :: read) later := by
  cases value with
  | true =>
      have word : ofWord? ['e', 'u', 'r', 't'].reverse = some (.bool true) := rfl
      exact scanFrom?_word word read delimited
  | false =>
      have word : ofWord? ['e', 's', 'l', 'a', 'f'].reverse = some (.bool false) := rfl
      exact scanFrom?_word word read delimited

/-- Signs, points and exponent marks continue a number. -/
theorem extendsNumber_of_isMark {character : Char} (mark : Literal.IsMark character) :
    extendsNumber character = true := by
  rcases mark with digit | other
  · have bounds := Literal.isDigit_iff.mp digit
    simp [extendsNumber, isDigit, bounds]
  · simp only [List.mem_cons, List.not_mem_nil, or_false] at other
    rcases other with rfl | rfl | rfl | rfl | rfl <;> decide

/-- The characters of a number are gathered until it ends. -/
theorem scanFrom?_gather {characters : List Char}
    (extend : ∀ character ∈ characters, extendsNumber character = true) (gathered : List Char)
    (read : List Token) (later : List Char) :
    scanFrom? (.number gathered) read (characters ++ later) =
      scanFrom? (.number (characters.reverse ++ gathered)) read later := by
  induction characters generalizing gathered with
  | nil => rfl
  | cons character others inductionHypothesis =>
      have step : (Mode.number gathered).step? character =
          some ([], .number (character :: gathered)) := by
        simp [Mode.step?, extend character List.mem_cons_self]
      have rest := inductionHypothesis
        (fun other member => extend other (List.mem_cons_of_mem character member))
        (character :: gathered)
      rw [List.cons_append, scanFrom?_cons step]
      simpa using rest

/-- A digit or a minus sign starts a number. -/
theorem startWith?_number {character : Char}
    (starts : character.isDigit = true ∨ character = '-') :
    Mode.startWith? character = some ([], .number [character]) := by
  rcases starts with digit | rfl
  · have other : ∀ mark : Char, mark.isDigit = false → character ≠ mark := by
      rintro mark notDigit rfl
      exact Bool.false_ne_true (notDigit.symm.trans digit)
    have space : isSpace character = false := by
      simp [isSpace, other ' ' rfl, other '\n' rfl, other '\t' rfl, other '\r' rfl]
    have bounds := Literal.isDigit_iff.mp digit
    simp [Mode.startWith?, space, other '"' rfl, isDigit, bounds]
  · rfl

/-- A number as it is written is scanned into its token. -/
theorem scan_number (number : Number) (read : List Token) {later : List Char}
    (delimited : Delimited later) :
    scanFrom? .ground read (number.render ++ later) =
      scanFrom? .ground (numberToken number :: read) later := by
  rw [numberToken]
  cases literal : Number.ofLiteral? number.render with
  | none =>
      rw [Number.render_eq_null literal]
      exact scan_null read delimited
  | some denoted =>
      obtain ⟨parts, readParts, _⟩ := Option.map_eq_some_iff.mp literal
      obtain ⟨⟨first, others, rendered, starts⟩, marks⟩ := Literal.isMark_of_parts? readParts
      rw [rendered] at literal marks ⊢
      have extend : ∀ character ∈ others, extendsNumber character = true := fun character member =>
        extendsNumber_of_isMark (marks character (List.mem_cons_of_mem first member))
      have gathered : Number.ofLiteral? (others.reverse ++ [first]).reverse = some denoted := by
        simpa using literal
      have step : Mode.step? .ground first = some ([], .number [first]) := startWith?_number starts
      rw [List.cons_append, scanFrom?_cons step]
      exact (scanFrom?_gather extend [first] read later).trans
        (scanFrom?_number gathered read delimited)

/-! ### Quotations -/

/-- The escape by code unit of a control character denotes the character. -/
theorem scan_unit {code : Nat} (control : code < 0x20) (characters : List Char)
    (read : List Token) (later : List Char) :
    scanFrom? (.quotation ⟨characters, none, true⟩) read
        (['\\', 'u', '0', '0'] ++ twoHexDigits code ++ later) =
      scanFrom? (.quotation ⟨Char.ofNat code :: characters, none, true⟩) read later := by
  have digit : ∀ value : Fin 16, hexValue? (hexDigit value) = some value := by decide
  have size : (UInt8.ofNat code).toNat = code :=
    UInt8.toNat_ofNat_of_lt' (lt_trans control (by decide))
  have first : ∀ read : Quotation, (Mode.unit read [0, 0]).step?
      (hexDigit (lastHexDigit (code / 16))) =
        some ([], .unit read [0, 0, lastHexDigit (code / 16)]) := by
    intro read
    simp [Mode.step?, digit]
  have second : (Mode.unit ⟨characters, none, true⟩ [0, 0, lastHexDigit (code / 16)]).step?
      (hexDigit (lastHexDigit code)) =
        some ([], .quotation ⟨Char.ofNat code :: characters, none, true⟩) := by
    have value : code / 16 % 16 * 16 + code % 16 = code := by omega
    have noHigh : ¬ 55296 <= code := by omega
    have noLow : ¬ 56320 <= code := by omega
    simp [Mode.step?, digit, lastHexDigit, Quotation.addUnit, value, noHigh, noLow]
  simp only [twoHexDigits, byteDigits, size, List.map_cons, List.map_nil, List.cons_append,
    List.nil_append]
  have opened : scanFrom? (.quotation ⟨characters, none, true⟩) read
      ('\\' :: 'u' :: '0' :: '0' :: hexDigit (lastHexDigit (code / 16)) ::
        hexDigit (lastHexDigit code) :: later) =
      scanFrom? (.unit ⟨characters, none, true⟩ [0, 0]) read
        (hexDigit (lastHexDigit (code / 16)) :: hexDigit (lastHexDigit code) :: later) := rfl
  rw [opened, scanFrom?_cons (first _), scanFrom?_cons second]
  rfl

/-- A character as it is escaped is scanned into the character. -/
theorem scan_escape (character : Char) (characters : List Char) (read : List Token)
    (later : List Char) :
    scanFrom? (.quotation ⟨characters, none, true⟩) read (escape character ++ later) =
      scanFrom? (.quotation ⟨character :: characters, none, true⟩) read later := by
  unfold escape
  split
  · subst character; rfl
  split
  · subst character; rfl
  split
  · subst character; rfl
  split
  · subst character; rfl
  split
  · subst character; rfl
  split
  · subst character; rfl
  split
  · subst character; rfl
  split
  · rename_i control
    rw [scan_unit control, Char.ofNat_toNat]
  · rename_i quoteMark backslash _ _ _ _ _ plain
    have step : (Mode.quotation ⟨characters, none, true⟩).step? character =
        some ([], .quotation ⟨character :: characters, none, true⟩) := by
      simp [Mode.step?, quoteMark, backslash, plain, Quotation.add]
    exact scanFrom?_cons step read later

/-- A quoted text is scanned into the text. -/
theorem scan_quote (text : String) (read : List Token) (later : List Char) :
    scanFrom? .ground read (quote text ++ later) =
      scanFrom? .ground (.string (some text) :: read) later := by
  have inside : ∀ (rest characters : List Char),
      scanFrom? (.quotation ⟨characters, none, true⟩) read
          (rest.flatMap escape ++ '"' :: later) =
        scanFrom? (.quotation ⟨rest.reverse ++ characters, none, true⟩) read ('"' :: later) := by
    intro rest
    induction rest with
    | nil => intro characters; rfl
    | cons character others inductionHypothesis =>
        intro characters
        rw [List.flatMap_cons, List.append_assoc, scan_escape, inductionHypothesis]
        simp
  have opens : Mode.step? .ground '"' = some ([], .quotation .start) := rfl
  have closes : (Mode.quotation ⟨text.toList.reverse ++ [], none, true⟩).step? '"' =
      some ([.string (some text)], .ground) := by
    simp [Mode.step?, Quotation.text?]
  have opened : quote text ++ later = '"' :: (text.toList.flatMap escape ++ '"' :: later) := by
    simp [quote]
  rw [opened, scanFrom?_cons opens]
  exact (inside text.toList []).trans (scanFrom?_cons closes read later)

/-! ### Values -/

/-- Line ends and indentation are scanned into nothing. -/
theorem scan_newLine (level : Nat) (read : List Token) (later : List Char) :
    scanFrom? .ground read (newLine level ++ later) = scanFrom? .ground read later := by
  have blanks : ∀ count, scanFrom? .ground read (List.replicate count ' ' ++ later) =
      scanFrom? .ground read later := by
    intro count
    induction count with
    | zero => rfl
    | succ count inductionHypothesis => exact inductionHypothesis
  exact blanks (2 * level)

/-- Whether the pretty text of a value is scanned into its tokens at every level, whatever
follows. -/
def Scanned (value : Json) : Prop :=
  ∀ level read later, Delimited later →
    scanFrom? .ground read (pretty level value ++ later) =
      scanFrom? .ground (value.tokens.reverse ++ read) later

/-- A structural mark is scanned into its token at once. -/
theorem scan_mark {character : Char} {token : Token}
    (mark : Mode.startWith? character = some ([token], .ground)) (read : List Token)
    (later : List Char) :
    scanFrom? .ground read (character :: later) = scanFrom? .ground (token :: read) later := by
  have step : Mode.step? .ground character = some ([token], .ground) := mark
  exact scanFrom?_cons step read later

/-- A comma ends a number or a word. -/
theorem delimited_comma (later : List Char) : Delimited (',' :: later) :=
  delimited_cons (by decide) (by decide)

/-- Items on lines of their own are scanned into their tokens when each item is. -/
theorem scan_prettyItems {items : List Json} (scanned : ∀ item ∈ items, Scanned item)
    (level : Nat) (read : List Token) {later : List Char} (delimited : Delimited later) :
    scanFrom? .ground read (prettyItems level items ++ later) =
      scanFrom? .ground ((itemTokens items).reverse ++ read) later := by
  induction items generalizing read with
  | nil => rfl
  | cons item others inductionHypothesis =>
      have first := scanned item List.mem_cons_self
      cases others with
      | nil =>
          rw [prettyItems, List.append_assoc, scan_newLine]
          exact first level read later delimited
      | cons next rest =>
          have comma : Mode.startWith? ',' = some ([.comma], .ground) := rfl
          have follow := inductionHypothesis
            (fun other member => scanned other (List.mem_cons_of_mem item member))
            (.comma :: (item.tokens.reverse ++ read))
          simp only [prettyItems, List.append_assoc, List.cons_append, List.nil_append] at follow ⊢
          rw [scan_newLine, first level read _ (delimited_comma _), scan_mark comma, follow]
          simp [itemTokens]

/-- Fields on lines of their own are scanned into their tokens when each value is. -/
theorem scan_prettyFields {fields : List (String × Json)}
    (scanned : ∀ field ∈ fields, Scanned field.2) (level : Nat) (read : List Token)
    {later : List Char} (delimited : Delimited later) :
    scanFrom? .ground read (prettyFields level fields ++ later) =
      scanFrom? .ground ((fieldTokens fields).reverse ++ read) later := by
  have colon : Mode.startWith? ':' = some ([.colon], .ground) := rfl
  -- A field is its name, the colon with a blank, and its value.
  have scanField : ∀ (name : String) (value : Json) (read : List Token) (later : List Char),
      Scanned value → Delimited later →
      scanFrom? .ground read
          (newLine level ++ (quote name ++ (':' :: ' ' :: (pretty level value ++ later)))) =
        scanFrom? .ground (value.tokens.reverse ++ .colon :: .string (some name) :: read)
          later := by
    intro name value read later scannedValue delimited
    rw [scan_newLine, scan_quote, scan_mark colon]
    exact scannedValue level _ later delimited
  induction fields generalizing read with
  | nil => rfl
  | cons field others inductionHypothesis =>
      obtain ⟨name, value⟩ := field
      have first : Scanned value := scanned (name, value) List.mem_cons_self
      cases others with
      | nil =>
          simp only [prettyFields, List.append_assoc, List.cons_append, List.nil_append]
          rw [scanField name value read later first delimited]
          simp [fieldTokens]
      | cons next rest =>
          have comma : Mode.startWith? ',' = some ([.comma], .ground) := rfl
          have follow := inductionHypothesis
            (fun other member => scanned other (List.mem_cons_of_mem _ member))
            (.comma :: (value.tokens.reverse ++ .colon :: .string (some name) :: read))
          simp only [prettyFields, List.append_assoc, List.cons_append, List.nil_append]
            at follow ⊢
          rw [scanField name value read _ first (delimited_comma _), scan_mark comma, follow]
          simp [fieldTokens]

/-- The pretty text of every value is scanned into its tokens. -/
theorem scan_pretty (value : Json) : Scanned value := by
  induction value using Json.induction with
  | null => exact fun _ read _ delimited => scan_null read delimited
  | bool value => exact fun _ read _ delimited => scan_bool value read delimited
  | number value => exact fun _ read _ delimited => scan_number value read delimited
  | string text => exact fun _ read later _ => scan_quote text read later
  | array items inductionHypothesis =>
      have opens : Mode.startWith? '[' = some ([.openArray], .ground) := rfl
      have closes : Mode.startWith? ']' = some ([.closeArray], .ground) := rfl
      intro level read later _
      cases items with
      | nil => rfl
      | cons first others =>
          have inner := scan_prettyItems inductionHypothesis (level + 1) (.openArray :: read)
            (delimited_newLine level (']' :: later))
          simp only [pretty, List.append_assoc, List.cons_append, List.nil_append]
          rw [scan_mark opens, inner, scan_newLine, scan_mark closes]
          simp [tokens]
  | object fields inductionHypothesis =>
      have opens : Mode.startWith? '\x7b' = some ([.openObject], .ground) := rfl
      have closes : Mode.startWith? '\x7d' = some ([.closeObject], .ground) := rfl
      intro level read later _
      cases fields with
      | nil => rfl
      | cons first others =>
          have inner := scan_prettyFields inductionHypothesis (level + 1) (.openObject :: read)
            (delimited_newLine level ('\x7d' :: later))
          simp only [pretty, List.append_assoc, List.cons_append, List.nil_append]
          rw [scan_mark opens, inner, scan_newLine, scan_mark closes]
          simp [tokens]

/-- The pretty text of a value is scanned into the tokens of the value. -/
theorem scan?_pretty (value : Json) : scan? (pretty 0 value) = some value.tokens := by
  have scanned := scan_pretty value 0 [] [] delimited_nil
  rw [List.append_nil] at scanned
  rw [scan?, scanned]
  simp [scanFrom?, Mode.ended?]

end Token

/-! ## The stack machine -/

namespace Reader

namespace State

/-- The parser takes one token and then the later ones. -/
theorem run?_cons (state : State) (token : Token) (later : List Token) :
    state.run? (token :: later) = (state.step? token).bind fun next => next.run? later := by
  rw [run?]
  cases state.step? token <;> rfl

/-- Whether the tokens of a value complete it, wherever a value may stand and whatever follows. -/
def Parsed (value : Json) : Prop :=
  ∀ frames later, (State.mk .value frames).run? (value.tokens ++ later) =
    (complete? frames value.reread).bind fun state => state.run? later

/-- What starts a value does so where an array may end, too. -/
theorem run?_valueOrClose (frames : List Frame) (value : Json) (later : List Token) :
    (State.mk .valueOrClose frames).run? (value.tokens ++ later) =
      (State.mk .value frames).run? (value.tokens ++ later) := by
  cases value with
  | number value =>
      rw [tokens, numberToken]
      split <;> rfl
  | _ => rfl

/-- The tokens of items complete them one after the other in an open array. -/
theorem run?_itemTokens {items : List Json} (parsed : ∀ item ∈ items, Parsed item)
    (nonempty : items ≠ []) (done : List Written) (outer : List Frame) (later : List Token) :
    (State.mk .value (.array done :: outer)).run? (itemTokens items ++ later) =
      (State.mk .separator
        (.array ((rereadItems items).reverse ++ done) :: outer)).run? later := by
  induction items generalizing done with
  | nil => exact absurd rfl nonempty
  | cons item others inductionHypothesis =>
      have first := parsed item List.mem_cons_self (.array done :: outer)
      cases others with
      | nil => exact first later
      | cons next rest =>
          have follow := inductionHypothesis
            (fun other member => parsed other (List.mem_cons_of_mem item member))
            (List.cons_ne_nil next rest) (item.reread :: done)
          have comma : (State.mk .separator (.array (item.reread :: done) :: outer)).step? .comma =
              some ⟨.value, .array (item.reread :: done) :: outer⟩ := rfl
          rw [itemTokens_cons_cons, List.append_assoc, first, complete?, Option.bind_some,
            List.cons_append, run?_cons, comma, Option.bind_some, follow]
          simp [rereadItems]

/-- The tokens of fields are read the same where an object may also end. -/
theorem run?_fieldTokens {fields : List (String × Json)}
    (parsed : ∀ field ∈ fields, Parsed field.2) (nonempty : fields ≠ [])
    {expectation : Expectation} (named : expectation = .name ∨ expectation = .nameOrClose)
    (done : List (Option String × Written)) (outer : List Frame) (later : List Token) :
    (State.mk expectation (.object done :: outer)).run? (fieldTokens fields ++ later) =
      (State.mk .separator (.object ((rereadFields fields).reverse ++ done) :: outer)).run?
        later := by
  induction fields generalizing expectation done with
  | nil => exact absurd rfl nonempty
  | cons field others inductionHypothesis =>
      obtain ⟨name, value⟩ := field
      -- The name and the colon leave the field waiting for its value.
      have start : ∀ rest : List Token,
          (State.mk expectation (.object done :: outer)).run?
              (.string (some name) :: .colon :: (value.tokens ++ rest)) =
            (State.mk .separator (.object ((some name, value.reread) :: done) :: outer)).run?
              rest := by
        intro rest
        have colon : (State.mk .colon (.member done (some name) :: outer)).step? .colon =
            some ⟨.value, .member done (some name) :: outer⟩ := rfl
        have step : (State.mk expectation (.object done :: outer)).step? (.string (some name)) =
            some ⟨.colon, .member done (some name) :: outer⟩ := by
          rcases named with rfl | rfl <;> rfl
        rw [run?_cons, step, Option.bind_some, run?_cons, colon, Option.bind_some]
        exact parsed (name, value) List.mem_cons_self _ rest
      cases others with
      | nil => exact start later
      | cons next rest =>
          have follow := inductionHypothesis
            (fun other member => parsed other (List.mem_cons_of_mem _ member))
            (List.cons_ne_nil next rest) (.inl rfl) ((some name, value.reread) :: done)
          have comma :
              (State.mk .separator (.object ((some name, value.reread) :: done) :: outer)).step?
                .comma = some ⟨.name, .object ((some name, value.reread) :: done) :: outer⟩ := rfl
          rw [fieldTokens_cons_cons]
          simp only [List.append_assoc, List.cons_append]
          rw [start, run?_cons, comma, Option.bind_some, follow]
          simp [rereadFields]

/-- The tokens of every value complete it. -/
theorem parsed (value : Json) : Parsed value := by
  induction value using Json.induction with
  | null => exact fun frames later => run?_cons ⟨.value, frames⟩ .null later
  | bool value => exact fun frames later => run?_cons ⟨.value, frames⟩ (.bool value) later
  | number value =>
      intro frames later
      rw [tokens, reread, numberToken, rereadNumber]
      cases Number.ofLiteral? value.render with
      | none => exact run?_cons ⟨.value, frames⟩ .null later
      | some denoted => exact run?_cons ⟨.value, frames⟩ (.number denoted) later
  | string text =>
      exact fun frames later => run?_cons ⟨.value, frames⟩ (.string (some text)) later
  | array items inductionHypothesis =>
      intro frames later
      have opens : (State.mk .value frames).step? .openArray =
          some ⟨.valueOrClose, .array [] :: frames⟩ := rfl
      have closes : (State.mk .separator (.array (rereadItems items).reverse :: frames)).step?
          .closeArray = complete? frames (.array (rereadItems items)) := by
        simp [step?, close?]
      rw [tokens, List.cons_append, List.cons_append, run?_cons, opens, Option.bind_some]
      cases items with
      | nil => exact run?_cons _ _ later
      | cons first others =>
          have inner := run?_itemTokens inductionHypothesis (List.cons_ne_nil first others) []
            frames (.closeArray :: later)
          obtain ⟨rest, startsWithValue⟩ := exists_itemTokens_cons first others
          rw [List.append_assoc, startsWithValue, List.append_assoc, run?_valueOrClose,
            ← List.append_assoc, ← startsWithValue, List.singleton_append, inner, List.append_nil,
            run?_cons, closes, reread]
  | object fields inductionHypothesis =>
      intro frames later
      have opens : (State.mk .value frames).step? .openObject =
          some ⟨.nameOrClose, .object [] :: frames⟩ := rfl
      have closes : (State.mk .separator (.object (rereadFields fields).reverse :: frames)).step?
          .closeObject = complete? frames (.object (rereadFields fields)) := by
        simp [step?, close?]
      rw [tokens, List.cons_append, List.cons_append, run?_cons, opens, Option.bind_some]
      cases fields with
      | nil => exact run?_cons _ _ later
      | cons first others =>
          have inner := run?_fieldTokens inductionHypothesis (List.cons_ne_nil first others)
            (.inr rfl) [] frames (.closeObject :: later)
          rw [List.append_assoc, List.singleton_append, inner, List.append_nil, run?_cons, closes,
            reread]

end State

end Reader

/-- The pretty text of a value is read as the written form of the value, up to its numbers. -/
theorem Written.read?_toPrettyText_eq_reread (value : Json) :
    Written.read? (toPrettyText value) = some value.reread := by
  have run : Reader.State.start.run? value.tokens = some ⟨.nothing value.reread, []⟩ := by
    simpa [Reader.State.start, Reader.State.complete?, Reader.State.run?] using
      Reader.State.parsed value [] []
  simp [Written.read?, toPrettyText, Token.scan?_pretty, run, Reader.State.document?]

/-- The pretty text of a value whose numbers are integers is read as the written form of the
value. -/
theorem Written.read?_toPrettyText {value : Json}
    (integers : ∀ number ∈ value.numbers, number.IsInteger) :
    Written.read? (toPrettyText value) = some value.written := by
  rw [read?_toPrettyText_eq_reread, reread_eq_written integers]

end ContractAtlas.Json

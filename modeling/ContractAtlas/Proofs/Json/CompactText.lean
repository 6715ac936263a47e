import ContractAtlas.Proofs.Json.Text

/-!
# Texts on one line read back

The compact text of a value is read as the written form of the value, like the pretty one
(`read?_toCompactText`). It has no control characters, in particular no line end, since the strings
in it escape theirs (`visible_compact`). So a compact text is one line of a file, whatever strings
the value contains.
-/

namespace ContractAtlas.Json

open Decimal Text

/-! ## Reading -/

namespace Token

/-- A closing bracket ends a number or a word. -/
theorem delimited_closeArray (later : List Char) : Delimited (']' :: later) :=
  delimited_cons (by decide) (by decide)

/-- A closing brace ends a number or a word. -/
theorem delimited_closeObject (later : List Char) : Delimited ('\x7d' :: later) :=
  delimited_cons (by decide) (by decide)

/-- Whether the compact text of a value is scanned into its tokens, whatever follows. -/
def CompactScanned (value : Json) : Prop :=
  ∀ read later, Delimited later →
    scanFrom? .ground read (compact value ++ later) =
      scanFrom? .ground (value.tokens.reverse ++ read) later

/-- The compact text of items is scanned into their tokens when the text of each item is. -/
theorem scan_compactItems {items : List Json} (scanned : ∀ item ∈ items, CompactScanned item)
    (read : List Token) {later : List Char} (delimited : Delimited later) :
    scanFrom? .ground read (compactItems items ++ later) =
      scanFrom? .ground ((itemTokens items).reverse ++ read) later := by
  induction items generalizing read with
  | nil => rfl
  | cons item others inductionHypothesis =>
      have first := scanned item List.mem_cons_self
      cases others with
      | nil => exact first read later delimited
      | cons next rest =>
          have comma : Mode.startWith? ',' = some ([.comma], .ground) := rfl
          have follow := inductionHypothesis
            (fun other member => scanned other (List.mem_cons_of_mem item member))
            (.comma :: (item.tokens.reverse ++ read))
          simp only [compactItems, List.append_assoc, List.cons_append, List.nil_append]
            at follow ⊢
          rw [first read _ (delimited_comma _), scan_mark comma, follow]
          simp [itemTokens]

/-- The compact text of fields is scanned into their tokens when the text of each value is. -/
theorem scan_compactFields {fields : List (String × Json)}
    (scanned : ∀ field ∈ fields, CompactScanned field.2) (read : List Token) {later : List Char}
    (delimited : Delimited later) :
    scanFrom? .ground read (compactFields fields ++ later) =
      scanFrom? .ground ((fieldTokens fields).reverse ++ read) later := by
  have colon : Mode.startWith? ':' = some ([.colon], .ground) := rfl
  induction fields generalizing read with
  | nil => rfl
  | cons field others inductionHypothesis =>
      obtain ⟨name, value⟩ := field
      have first : CompactScanned value := scanned (name, value) List.mem_cons_self
      cases others with
      | nil =>
          simp only [compactFields, List.append_assoc, List.cons_append, List.nil_append]
          rw [scan_quote, scan_mark colon, first _ later delimited]
          simp [fieldTokens]
      | cons next rest =>
          have comma : Mode.startWith? ',' = some ([.comma], .ground) := rfl
          have follow := inductionHypothesis
            (fun other member => scanned other (List.mem_cons_of_mem _ member))
            (.comma :: (value.tokens.reverse ++ .colon :: .string (some name) :: read))
          simp only [compactFields, List.append_assoc, List.cons_append, List.nil_append]
            at follow ⊢
          rw [scan_quote, scan_mark colon, first _ _ (delimited_comma _), scan_mark comma, follow]
          simp [fieldTokens]

/-- The compact text of every value is scanned into its tokens. -/
theorem scan_compact (value : Json) : CompactScanned value := by
  induction value using Json.induction with
  | null => exact fun read _ delimited => scan_null read delimited
  | bool value => exact fun read _ delimited => scan_bool value read delimited
  | number value => exact fun read _ delimited => scan_number value read delimited
  | string text => exact fun read later _ => scan_quote text read later
  | array items inductionHypothesis =>
      have opens : Mode.startWith? '[' = some ([.openArray], .ground) := rfl
      have closes : Mode.startWith? ']' = some ([.closeArray], .ground) := rfl
      intro read later _
      have inner := scan_compactItems inductionHypothesis (.openArray :: read)
        (delimited_closeArray later)
      simp only [compact, List.append_assoc, List.cons_append, List.nil_append]
      rw [scan_mark opens, inner, scan_mark closes]
      simp [tokens]
  | object fields inductionHypothesis =>
      have opens : Mode.startWith? '\x7b' = some ([.openObject], .ground) := rfl
      have closes : Mode.startWith? '\x7d' = some ([.closeObject], .ground) := rfl
      intro read later _
      have inner := scan_compactFields inductionHypothesis (.openObject :: read)
        (delimited_closeObject later)
      simp only [compact, List.append_assoc, List.cons_append, List.nil_append]
      rw [scan_mark opens, inner, scan_mark closes]
      simp [tokens]

/-- The compact text of a value is scanned into the tokens of the value. -/
theorem scan?_compact (value : Json) : scan? (compact value) = some value.tokens := by
  have scanned := scan_compact value [] [] delimited_nil
  rw [List.append_nil] at scanned
  rw [scan?, scanned]
  simp [scanFrom?, Mode.ended?]

end Token

/-- The compact text of a value is read as the written form of the value, up to its numbers. -/
theorem Written.read?_toCompactText_eq_reread (value : Json) :
    Written.read? (toCompactText value) = some value.reread := by
  have pretty := read?_toPrettyText_eq_reread value
  rw [Written.read?, toPrettyText, String.toList_ofList, Token.scan?_pretty] at pretty
  rw [Written.read?, toCompactText, String.toList_ofList, Token.scan?_compact]
  exact pretty

/-- The compact text of a value whose numbers are integers is read as the written form of the
value. -/
theorem Written.read?_toCompactText {value : Json}
    (integers : ∀ number ∈ value.numbers, number.IsInteger) :
    Written.read? (toCompactText value) = some value.written := by
  rw [read?_toCompactText_eq_reread, reread_eq_written integers]

/-! ## Characters -/

/-- Whether none of some characters is a control character below the blank. -/
def Visible (characters : List Char) : Prop :=
  ∀ character ∈ characters, 0x20 ≤ character.toNat

/-- A text is free of control characters when both of its halves are. -/
theorem Visible.append {first second : List Char} (one : Visible first) (two : Visible second) :
    Visible (first ++ second) :=
  fun character member => (List.mem_append.mp member).elim (one character) (two character)

/-- No control character stands in a text that is free of them. -/
theorem Visible.notMem {characters : List Char} (visible : Visible characters) {character : Char}
    (control : character.toNat < 0x20) : character ∉ characters :=
  fun member => Nat.not_lt.mpr (visible character member) control

/-- Control characters are written as escapes. -/
theorem visible_escape (character : Char) : Visible (escape character) := by
  have hexadecimal : ∀ value : Fin 16, 0x20 ≤ (hexDigit value).toNat := by decide
  unfold escape
  iterate 7
    split
    · simp [Visible]
  split
  · refine Visible.append (by simp [Visible]) fun digit member => ?_
    obtain ⟨value, _, rfl⟩ := List.mem_map.mp member
    exact hexadecimal value
  · rename_i printable
    exact List.forall_mem_singleton.mpr (Nat.not_lt.mp printable)

/-- Quoting escapes every control character. -/
theorem visible_quote (text : String) : Visible (quote text) := by
  refine .append (.append (by simp [Visible]) fun character member => ?_) (by simp [Visible])
  obtain ⟨quoted, _, inside⟩ := List.mem_flatMap.mp member
  exact visible_escape quoted character inside

/-- A number is written without control characters. -/
theorem visible_render (number : Number) : Visible number.render := by
  cases literal : Number.ofLiteral? number.render with
  | none =>
      rw [Number.render_eq_null literal]
      simp [Visible]
  | some denoted =>
      obtain ⟨parts, readParts, _⟩ := Option.map_eq_some_iff.mp literal
      obtain ⟨_, marks⟩ := Literal.isMark_of_parts? readParts
      intro character member
      obtain digit | mark := marks character member
      · have first : 48 ≤ character.toNat := (toNat_le_iff '0' character).mp
          (by simpa using (Literal.isDigit_iff.mp digit).1)
        omega
      · simp only [List.mem_cons, List.not_mem_nil, or_false] at mark
        rcases mark with rfl | rfl | rfl | rfl | rfl <;> simp

/-- Compact items have no control characters when none of them has. -/
theorem visible_compactItems {items : List Json}
    (visible : ∀ item ∈ items, Visible (compact item)) : Visible (compactItems items) := by
  induction items with
  | nil => exact List.forall_mem_nil _
  | cons item others inductionHypothesis =>
      obtain ⟨first, later⟩ := List.forall_mem_cons.mp visible
      cases others with
      | nil => exact first
      | cons next rest =>
          exact .append (.append first (by simp [Visible])) (inductionHypothesis later)

/-- Compact fields have no control characters when none of their values has. -/
theorem visible_compactFields {fields : List (String × Json)}
    (visible : ∀ field ∈ fields, Visible (compact field.2)) : Visible (compactFields fields) := by
  induction fields with
  | nil => exact List.forall_mem_nil _
  | cons field others inductionHypothesis =>
      obtain ⟨first, later⟩ := List.forall_mem_cons.mp visible
      have named : Visible (quote field.1 ++ [':'] ++ compact field.2) :=
        .append (.append (visible_quote field.1) (by simp [Visible])) first
      cases others with
      | nil => exact named
      | cons next rest =>
          exact .append (.append named (by simp [Visible])) (inductionHypothesis later)

/-- The compact text of a value has no control characters. -/
theorem visible_compact (value : Json) : Visible (compact value) := by
  induction value using Json.induction with
  | null => simp [Visible, compact]
  | bool value => cases value <;> simp [Visible, compact, renderBool]
  | number value => exact visible_render value
  | string text => exact visible_quote text
  | array items inductionHypothesis =>
      exact .append (.append (by simp [Visible]) (visible_compactItems inductionHypothesis))
        (by simp [Visible])
  | object fields inductionHypothesis =>
      exact .append (.append (by simp [Visible]) (visible_compactFields inductionHypothesis))
        (by simp [Visible])

end ContractAtlas.Json

import ContractAtlas.Proofs.Decimal.Literal

/-!
# Written numbers are literals

Every number but an infinite one is written as a literal (`Number.render_eq_null`), whatever the
literal denotes when it is read. A literal starts with a digit or a minus sign and has only the
characters that may belong to a number (`Literal.isMark_of_parts?`), so a scanner never ends it
early. -/

namespace ContractAtlas.Decimal

namespace Literal

/-- Whether a character may stand in a literal. -/
def IsMark (character : Char) : Prop :=
  character.isDigit = true ∨ character ∈ ['-', '+', '.', 'e', 'E']

/-! ## The characters of a literal -/

/-- Taking digits splits the characters before the first that is none. -/
theorem exists_takeDigits (characters : List Char) :
    ∃ digits, characters = digits ++ (takeDigits characters).2 ∧
      (∀ character ∈ digits, character.isDigit = true) ∧
      (takeDigits characters).1.length = digits.length := by
  induction characters with
  | nil => exact ⟨[], rfl, List.forall_mem_nil _, rfl⟩
  | cons character later inductionHypothesis =>
      by_cases digit : character.isDigit = true
      · obtain ⟨digits, same, all, size⟩ := inductionHypothesis
        have bounds := isDigit_iff.mp digit
        refine ⟨character :: digits, ?_, List.forall_mem_cons.mpr ⟨digit, all⟩, ?_⟩
        · simpa [takeDigits, bounds] using same
        · simpa [takeDigits, bounds] using size
      · refine ⟨[], ?_, List.forall_mem_nil _, ?_⟩ <;>
          simp [takeDigits, ← isDigit_iff, digit]

/-- If what is left after the digits are marks of a number, all of it is, as digits are marks. -/
theorem isMark_of_takeDigits {characters : List Char}
    (rest : ∀ character ∈ (takeDigits characters).2, IsMark character) :
    ∀ character ∈ characters, IsMark character := by
  obtain ⟨digits, same, all, _⟩ := exists_takeDigits characters
  intro character member
  rw [same, List.mem_append] at member
  exact member.elim (fun inDigits => .inl (all character inDigits)) (rest character)

/-- What is read as an exponent has the marks of a number only. -/
theorem isMark_of_exponent? {characters : List Char} {exponent : Option (Bool × List Nat)}
    (read : exponent? characters = some exponent) : ∀ character ∈ characters, IsMark character := by
  cases characters with
  | nil => exact List.forall_mem_nil _
  | cons mark later =>
      simp only [exponent?] at read
      split at read
      · rename_i isExponent
        have markE : IsMark mark := by
          rcases Bool.or_eq_true_iff.mp isExponent with same | same <;>
            simp [of_decide_eq_true same, IsMark]
        split at read
        · cases read
        · rename_i taken _ taking
          have marks := isMark_of_takeDigits (by rw [taking]; simp)
          refine List.forall_mem_cons.mpr ⟨markE, ?_⟩
          split at marks
          · exact List.forall_mem_cons.mpr ⟨.inr (by simp), marks⟩
          · exact List.forall_mem_cons.mpr ⟨.inr (by simp), marks⟩
          · exact marks
        · cases read
      · cases read

/-- There is a minus sign to take, or nothing is taken. -/
theorem takeSign_cases (characters : List Char) :
    (∃ later, characters = '-' :: later ∧ takeSign characters = (true, later)) ∨
      takeSign characters = (false, characters) := by
  unfold takeSign
  split
  · exact .inl ⟨_, rfl, rfl⟩
  · exact .inr rfl

/-- A literal starts with a digit or a minus sign, and has the characters of a number. -/
theorem isMark_of_parts? {characters : List Char} {parts : Parts}
    (read : parts? characters = some parts) :
    (∃ first later, characters = first :: later ∧ (first.isDigit = true ∨ first = '-')) ∧
      ∀ character ∈ characters, IsMark character := by
  simp only [parts?] at read
  split at read
  · cases read
  rename_i accepted
  obtain ⟨whole, unsigned, digits, size⟩ := exists_takeDigits (takeSign characters).2
  have rest : ∀ character ∈ (takeDigits (takeSign characters).2).2, IsMark character := by
    split at read
    · rename_i fractionText afterWhole
      rw [afterWhole]
      refine List.forall_mem_cons.mpr ⟨.inr (by simp), isMark_of_takeDigits ?_⟩
      split at read
      · cases read
      · obtain ⟨exponent, readExponent, _⟩ := Option.bind_eq_some_iff.mp read
        exact isMark_of_exponent? readExponent
    · obtain ⟨exponent, readExponent, _⟩ := Option.bind_eq_some_iff.mp read
      exact isMark_of_exponent? readExponent
  have marks := isMark_of_takeDigits rest
  have leads : ∃ first later, (takeSign characters).2 = first :: later ∧ first.isDigit = true := by
    cases whole with
    | nil =>
        have empty : (takeDigits (takeSign characters).2).1 = [] := List.length_eq_zero_iff.mp size
        exact absurd (by simp [empty]) accepted
    | cons first later =>
        exact ⟨first, _, unsigned, digits first List.mem_cons_self⟩
  obtain ⟨first, later, starts, digit⟩ := leads
  obtain ⟨magnitude, rfl, signed⟩ | signed := takeSign_cases characters
  · rw [signed] at marks
    exact ⟨⟨'-', magnitude, rfl, .inr rfl⟩, List.forall_mem_cons.mpr ⟨.inr (by simp), marks⟩⟩
  · rw [signed] at marks starts
    exact ⟨⟨first, later, starts, .inl digit⟩, marks⟩

/-! ## Texts that are literals -/

/-- Whether characters are the whole part of a literal: there are digits, and no superfluous zero
leads them. -/
structure IsWhole (whole : List Char) : Prop where
  digits : ∀ character ∈ whole, character.isDigit = true
  nonempty : whole ≠ []
  leading : whole.head? = some '0' → whole.length = 1

/-- Whether characters are the fraction of a literal. -/
structure IsFraction (fraction : List Char) : Prop where
  digits : ∀ character ∈ fraction, character.isDigit = true
  nonempty : fraction ≠ []

/-- Whether characters are a literal without a sign: a whole part, a point and a fraction or
neither, and an exponent or the end. -/
inductive IsUnsigned : List Char → Prop where
  | whole {whole after : List Char} (isWhole : IsWhole whole) (ends : exponent? after ≠ none) :
      IsUnsigned (whole ++ after)
  | fraction {whole fraction after : List Char} (isWhole : IsWhole whole)
      (isFraction : IsFraction fraction) (ends : exponent? after ≠ none) :
      IsUnsigned (whole ++ '.' :: (fraction ++ after))

/-- Neither a digit nor a point starts an exponent. -/
theorem head_of_exponent? {after : List Char} (ends : exponent? after ≠ none) :
    ∀ character ∈ after.head?, character.isDigit = false ∧ character ≠ '.' := by
  cases after with
  | nil => exact fun _ member => absurd member (by simp)
  | cons mark later =>
      rintro _ ⟨⟩
      have isExponent : mark = 'e' ∨ mark = 'E' := by
        by_contra other
        exact ends (by simpa [exponent?] using fun same => absurd same other)
      obtain rfl | rfl := isExponent <;> decide

/-- A whole part that starts with a zero is that zero. -/
theorem IsWhole.accepted {whole : List Char} (isWhole : IsWhole whole) :
    ((whole.map fun character => character.toNat - 48).isEmpty ||
      decide ((whole.map fun character => character.toNat - 48).head? = some 0) &&
        decide ((whole.map fun character => character.toNat - 48).length > 1)) = false := by
  obtain ⟨digits, nonempty, leading⟩ := isWhole
  obtain ⟨first, others, rfl⟩ := List.exists_cons_of_ne_nil nonempty
  by_cases zero : first = '0'
  · have single : others = [] := by simpa [zero] using leading
    simp [single]
  · have least := (Text.toNat_le_iff '0' first).mp
      (isDigit_iff.mp (digits first List.mem_cons_self)).1
    have code : '0'.toNat = 48 := rfl
    have positive : first.toNat - 48 ≠ 0 := fun none => zero (Char.toNat_inj.mp (by omega))
    simp [positive]

/-- Behind a sign or none, a literal without a sign is a literal. -/
theorem IsUnsigned.parts?_ne_none {text characters : List Char} {negative : Bool}
    (isUnsigned : IsUnsigned text) (signed : takeSign characters = (negative, text)) :
    parts? characters ≠ none := by
  cases isUnsigned with
  | @whole whole after isWhole ends =>
      have head := head_of_exponent? ends
      have taken := takeDigits_eq isWhole.digits after fun _ member => (head _ member).1
      obtain ⟨read, isRead⟩ := Option.ne_none_iff_exists'.mp ends
      simp only [parts?, signed, taken, isWhole.accepted, Bool.false_eq_true, if_false]
      split
      · exact absurd rfl (head '.' rfl).2
      · simp [isRead]
  | @fraction whole fraction after isWhole isFraction ends =>
      have taken := takeDigits_eq isWhole.digits ('.' :: (fraction ++ after))
        (by rintro _ ⟨⟩; rfl)
      have takenFraction := takeDigits_eq isFraction.digits after fun _ member =>
        (head_of_exponent? ends _ member).1
      obtain ⟨read, isRead⟩ := Option.ne_none_iff_exists'.mp ends
      simp only [parts?, signed, taken, isWhole.accepted, Bool.false_eq_true, if_false]
      simp [takenFraction, isFraction.nonempty, isRead]

/-- A literal without a sign starts with a digit. -/
theorem IsUnsigned.takeSign_eq {text : List Char} (isUnsigned : IsUnsigned text) :
    takeSign text = (false, text) := by
  obtain ⟨first, later, rfl, digit⟩ : ∃ first later, text = first :: later ∧
      first.isDigit = true := by
    cases isUnsigned with
    | whole isWhole _ | fraction isWhole _ _ =>
        obtain ⟨first, others, rfl⟩ := List.exists_cons_of_ne_nil isWhole.nonempty
        exact ⟨first, _, rfl, isWhole.digits first List.mem_cons_self⟩
  obtain ⟨_, minus, _⟩ | unsigned := takeSign_cases (first :: later)
  · obtain ⟨rfl, _⟩ := List.cons_eq_cons.mp minus
    cases digit
  · exact unsigned

/-! ### Whole parts -/

/-- One digit is a whole part, zero included. -/
theorem isWhole_singleton {character : Char} (digit : character.isDigit = true) :
    IsWhole [character] :=
  ⟨by simpa using digit, List.cons_ne_nil _ _, fun _ => rfl⟩

/-- The digits of a number are a whole part, as they have no leading zero. -/
theorem isWhole_digitText (number : Nat) : IsWhole (digitText number) where
  digits _ := isDigit_of_mem_toDigits
  nonempty := Nat.toDigits_ne_nil
  leading zero := by
    obtain rfl := eq_zero_of_head?_toDigits zero
    rfl

/-- The digits of a whole part can stand behind a point. -/
theorem IsWhole.isFraction {whole : List Char} (isWhole : IsWhole whole) : IsFraction whole :=
  ⟨isWhole.digits, isWhole.nonempty⟩

/-- Digits may follow those that do not start with a zero. -/
theorem IsWhole.append {whole later : List Char} (isWhole : IsWhole whole)
    (nonzero : whole.head? ≠ some '0') (digits : ∀ character ∈ later, character.isDigit = true) :
    IsWhole (whole ++ later) where
  digits character member :=
    (List.mem_append.mp member).elim (isWhole.digits character) (digits character)
  nonempty := List.append_ne_nil_of_left_ne_nil isWhole.nonempty later
  leading zero := by
    rw [List.head?_append_of_ne_nil _ isWhole.nonempty] at zero
    exact absurd zero nonzero

/-- Digits that are cut in two are a whole part and a fraction. -/
theorem IsWhole.cut {digits : List Char} (isWhole : IsWhole digits) {count : Nat}
    (positive : 0 < count) (shorter : count < digits.length) :
    IsWhole (digits.take count) ∧ IsFraction (digits.drop count) := by
  refine ⟨⟨fun _ member => isWhole.digits _ (List.mem_of_mem_take member), ?_, fun zero => ?_⟩,
    fun _ member => isWhole.digits _ (List.mem_of_mem_drop member), ?_⟩
  · exact List.length_pos_iff.mp (by rw [List.length_take]; omega)
  · rw [List.head?_take, if_neg (by omega)] at zero
    have single := isWhole.leading zero
    omega
  · exact List.length_pos_iff.mp (by rw [List.length_drop]; omega)

/-- Zeros are digits. -/
theorem isDigit_of_mem_zeros {count : Nat} {character : Char} (member : character ∈ zeros count) :
    character.isDigit = true := by
  obtain rfl := List.eq_of_mem_replicate member
  rfl

/-- An exponent mark, a sign and digits are an exponent. -/
theorem exponent?_ne_none (negative : Bool) (number : Nat) :
    exponent? ('e' :: (if negative then '-' else '+') :: Nat.toDigits 10 number) ≠ none := by
  have taken : takeDigits (Nat.toDigits 10 number) = (digitValues number, []) := by
    simpa [digitValues] using takeDigits_eq (fun _ => isDigit_of_mem_toDigits) [] (by simp)
  have nonempty := digitValues_ne_nil number
  cases values : digitValues number with
  | nil => exact absurd values nonempty
  | cons first later => cases negative <;> simp [exponent?, taken, values]

/-! ### Layouts -/

/-- A whole part and a fraction with nothing behind them are a literal. -/
theorem IsUnsigned.point {whole fraction : List Char} (isWhole : IsWhole whole)
    (isFraction : IsFraction fraction) : IsUnsigned (whole ++ '.' :: fraction) := by
  have ends : exponent? [] ≠ none := by simp [exponent?]
  simpa using IsUnsigned.fraction isWhole isFraction ends

/-- Digits of which all but the first follow a point are a literal with any exponent. -/
theorem IsWhole.isUnsigned_scientific {digits after : List Char} (isWhole : IsWhole digits)
    (ends : exponent? after ≠ none) :
    IsUnsigned (digits.take 1 ++
      (if (digits.drop 1).isEmpty then [] else '.' :: digits.drop 1) ++ after) := by
  obtain ⟨first, others, rfl⟩ := List.exists_cons_of_ne_nil isWhole.nonempty
  have leads := isWhole_singleton (isWhole.digits first List.mem_cons_self)
  cases others with
  | nil => exact .whole leads ends
  | cons second rest =>
      have isFraction : IsFraction (second :: rest) :=
        ⟨fun _ member => isWhole.digits _ (List.mem_cons_of_mem first member),
          List.cons_ne_nil _ _⟩
      exact .fraction leads isFraction ends

/-- The digits of a number in any layout are a literal, unless zeros would follow a zero. -/
theorem isUnsigned_unsigned (layout : Layout) {number : Nat} {exponent : Int}
    (leads : number = 0 → exponent < 0) :
    IsUnsigned (layout.unsigned (digitText number) exponent) := by
  have isWhole := isWhole_digitText number
  have nonzero : 0 <= exponent → (digitText number).head? ≠ some '0' := fun large zero => by
    have small := leads (eq_zero_of_head?_toDigits zero)
    omega
  generalize digitText number = digits at *
  have isZero : IsWhole ['0'] := isWhole_singleton rfl
  simp only [Layout.unsigned, List.append_assoc]
  split
  · split
    · -- Zeros and a point follow the digits.
      rename_i large
      rw [← List.append_assoc]
      exact .point (isWhole.append (nonzero large) fun _ => isDigit_of_mem_zeros) isZero.isFraction
    · rename_i small
      split
      · -- The point stands among the digits.
        have cut := isWhole.cut (show 0 < (exponent + digits.length - 1 + 1).toNat by omega)
          (by omega)
        exact .point cut.1 cut.2
      · -- A zero and the point stand before the digits.
        have isFraction (count : Nat) : IsFraction (zeros count ++ digits) :=
          ⟨fun character member => (List.mem_append.mp member).elim isDigit_of_mem_zeros
              (isWhole.digits character),
            List.append_ne_nil_of_right_ne_nil _ isWhole.nonempty⟩
        exact .point isZero (isFraction _)
  · -- The digits have an exponent.
    have ends := exponent?_ne_none (decide (exponent + digits.length - 1 < 0))
      (exponent + digits.length - 1).natAbs
    simpa [digitText] using isWhole.isUnsigned_scientific ends

end Literal

/-! ## Shortest digits -/

namespace Shortest

variable {range : Interval}

/-- No range above zero covers zero. -/
theorem covers_zero (positive : 0 < range.low) (exponent place : Int) :
    covers range (scale exponent place) 0 = false := by
  have scaled : 0 < (scale exponent place).1 :=
    Nat.mul_pos (Nat.pow_pos (by decide)) (Nat.pow_pos (by decide))
  have low := Nat.mul_pos positive scaled
  simp [covers, Nat.ne_of_gt low]

/-- The best point of a grid is not zero. -/
theorem onGrid?_ne_zero (positive : 0 < range.low) (place : Int) :
    onGrid? range place ≠ some 0 := by
  unfold onGrid?
  simp only
  generalize range.value * (scale range.exponent place).1 / (scale range.exponent place).2 = below
  cases below with
  | zero =>
      rw [covers_zero positive]
      cases covers range (scale range.exponent place) (0 + 1) <;> simp
  | succ below =>
      split
      · split
        · simp
        · split
          · simp
          · split <;> simp
      all_goals simp

/-- Only the finest grid may hold no point but zero. -/
theorem search_ne_zero (positive : 0 < range.low) (count : Nat) (place : Int)
    (zero : (search range count place).digits = 0) :
    (search range count place).exponent = place - count := by
  induction count generalizing place with
  | zero => simp [search]
  | succ count inductionHypothesis =>
      rw [search] at zero ⊢
      cases best : onGrid? range place with
      | none =>
          simp only [best] at zero ⊢
          rw [inductionHypothesis _ zero]
          omega
      | some digits =>
          simp only [best] at zero
          exact absurd (zero ▸ best) (onGrid?_ne_zero positive place)

end Shortest

/-- A number that is not zero has a mantissa that is not. -/
theorem Binary64.mantissa_pos {number : Binary64} (nonzero : number.isZero = false) :
    0 < number.mantissa := by
  by_contra none
  have empty : number.mantissa = 0 := by omega
  have exponent : number.exponentField = 0 := by
    by_contra normal
    rw [mantissa, if_neg normal] at empty
    have large : 0 < Nat.pow 2 52 := Nat.pow_pos (by decide)
    omega
  simp [isZero, empty, exponent] at nonzero

/-- The text of a number in a layout is a literal. -/
theorem Layout.parts?_render_ne_none (layout : Layout) (number : Binary64) :
    Literal.parts? (layout.render number) ≠ none := by
  have isUnsigned : Literal.IsUnsigned (if number.isZero then ['0', '.', '0']
      else layout.unsigned (digitText number.shortest.digits) number.shortest.exponent) := by
    split
    · have isZero : Literal.IsWhole ['0'] := Literal.isWhole_singleton rfl
      exact .point isZero isZero.isFraction
    · rename_i nonzero
      refine Literal.isUnsigned_unsigned layout fun none => ?_
      have positive : 0 < (Shortest.interval number).low := by
        have mantissa := Binary64.mantissa_pos (by simpa using nonzero)
        simp only [Shortest.interval]
        split <;> omega
      rw [Binary64.shortest, if_neg nonzero] at none ⊢
      rw [Shortest.search_ne_zero positive 640 309 none]
      decide
  simp only [Layout.render]
  split
  · exact isUnsigned.parts?_ne_none rfl
  · exact isUnsigned.parts?_ne_none isUnsigned.takeSign_eq

/-- What is not written as a literal is written as a word. -/
theorem Number.render_eq_null {number : Number} (unread : ofLiteral? number.render = none) :
    number.render = ['n', 'u', 'l', 'l'] := by
  rw [ofLiteral?, Option.map_eq_none_iff] at unread
  cases number with
  | integer value =>
      cases value with
      | ofNat value =>
          rw [render, Literal.parts?_of_takeSign (Literal.takeSign_toDigits value)] at unread
          cases unread
      | negSucc value =>
          have signed : Literal.takeSign ('-' :: Nat.toDigits 10 (value + 1)) =
              (true, Nat.toDigits 10 (value + 1)) := rfl
          rw [render, Literal.parts?_of_takeSign signed] at unread
          cases unread
  | binary64 value =>
      rw [render] at unread ⊢
      split at unread
      · exact absurd unread (Layout.document.parts?_render_ne_none value)
      · rename_i infinite
        rw [if_neg infinite]

end ContractAtlas.Decimal

import ContractAtlas.Decimal.Literal
import ContractAtlas.Proofs.Text.Trimming

/-!
# Integer literals

The written form of an integer that a document may hold is a literal of that integer
(`ofLiteral?_render`). Nothing is said of floats other than minus zero, which is what the literal of
that name denotes and is therefore written as a float.
-/

namespace ContractAtlas.Decimal

/-- Whether a number is one that an integer literal from -2^63 to 2^64 - 1 denotes, minus zero
included. -/
def Number.IsInteger : Number → Prop
  | .integer value => -2 ^ 63 <= value ∧ value <= 2 ^ 64 - 1
  | .binary64 value => value = .zero true

instance (number : Number) : Decidable number.IsInteger :=
  match number with
  | .integer value => inferInstanceAs (Decidable (-2 ^ 63 <= value ∧ value <= 2 ^ 64 - 1))
  | .binary64 value => inferInstanceAs (Decidable (value = .zero true))

namespace Literal

/-- The digits are the characters from zero to nine. -/
theorem isDigit_iff {character : Char} :
    character.isDigit = true ↔ '0' <= character ∧ character <= '9' := by
  simp [Char.isDigit, Char.le_def]

/-- Digits are taken up to the first character that is none. -/
theorem takeDigits_eq {characters : List Char}
    (digits : ∀ character ∈ characters, character.isDigit = true) (later : List Char)
    (ends : ∀ character ∈ later.head?, character.isDigit = false) :
    takeDigits (characters ++ later) =
      (characters.map fun character => character.toNat - 48, later) := by
  induction characters with
  | nil =>
      cases later with
      | nil => rfl
      | cons character _ =>
          have other : ¬ ('0' <= character ∧ character <= '9') := by
            rw [← isDigit_iff, ends character rfl]
            simp
          simp only [List.nil_append, takeDigits, Bool.and_eq_true, decide_eq_true_eq, if_neg other,
            List.map_nil]
  | cons character others inductionHypothesis =>
      have digit := isDigit_iff.mp (digits character List.mem_cons_self)
      have rest := inductionHypothesis fun other member =>
        digits other (List.mem_cons_of_mem character member)
      simp [takeDigits, digit, rest]

/-- The decimal digits of a number are digits to the reader. -/
theorem isDigit_of_mem_toDigits {number : Nat} {character : Char}
    (member : character ∈ Nat.toDigits 10 number) : character.isDigit = true :=
  Nat.isDigit_of_mem_toDigits (by decide) (by decide) member

/-- Only zero is written with a leading zero. -/
theorem eq_zero_of_head?_toDigits {number : Nat}
    (leading : (Nat.toDigits 10 number).head? = some '0') : number = 0 := by
  induction number using Nat.strong_induction_on with
  | _ number inductionHypothesis =>
      rw [Nat.toDigits_eq_if (by decide)] at leading
      split at leading
      · rename_i small
        have digits : ∀ digit < 10, digit.digitChar = '0' → digit = 0 := by decide
        exact digits number small (by simpa using leading)
      · rename_i large
        rw [List.head?_append_of_ne_nil _ Nat.toDigits_ne_nil] at leading
        have smaller := inductionHypothesis (number / 10) (by omega) leading
        omega

/-- The digits of a number have no sign in front. -/
theorem takeSign_toDigits (number : Nat) :
    takeSign (Nat.toDigits 10 number) = (false, Nat.toDigits 10 number) := by
  cases digits : Nat.toDigits 10 number with
  | nil => rfl
  | cons first others =>
      have digit : first.isDigit = true :=
        isDigit_of_mem_toDigits (digits ▸ List.mem_cons_self : first ∈ Nat.toDigits 10 number)
      unfold takeSign
      split
      · rename_i same
        cases same
        cases digit
      · rfl

/-- The values of the digits of a number, most significant first. -/
def digitValues (number : Nat) : List Nat :=
  (Nat.toDigits 10 number).map fun character => character.toNat - 48

/-- Every number has a digit. -/
theorem digitValues_ne_nil (number : Nat) : digitValues number ≠ [] := by
  simp [digitValues, Nat.toDigits_ne_nil]

/-- The values of the digits give the number back. -/
theorem foldl_digitValues (number : Nat) :
    (digitValues number).foldl (fun value digit => value * 10 + digit) 0 = number := by
  rw [digitValues, List.foldl_map]
  conv_rhs => rw [← Nat.ofDigitChars_toDigits (b := 10) (n := number) (by decide) (by decide)]
  simp only [Nat.ofDigitChars, Nat.mul_comm]
  rfl

/-- No digit but that of zero itself leads with the value zero. -/
theorem length_of_leading_zero {number : Nat} (leading : (digitValues number).head? = some 0) :
    (digitValues number).length = 1 := by
  cases digits : Nat.toDigits 10 number with
  | nil => exact absurd digits Nat.toDigits_ne_nil
  | cons first others =>
      have member : first ∈ Nat.toDigits 10 number := digits ▸ List.mem_cons_self
      have digit := isDigit_iff.mp (isDigit_of_mem_toDigits member)
      have value : first.toNat - 48 = 0 := by simpa [digitValues, digits] using leading
      have isZero : first = '0' := by
        have least := (Text.toNat_le_iff '0' first).mp digit.1
        have code : '0'.toNat = 48 := rfl
        exact Char.toNat_inj.mp (by omega)
      have none : number = 0 := eq_zero_of_head?_toDigits (by rw [digits, isZero]; rfl)
      rw [none]
      rfl

/-- A sign and the digits of a number are a literal without fraction and exponent. -/
theorem parts?_of_takeSign {characters : List Char} {negative : Bool} {number : Nat}
    (signed : takeSign characters = (negative, Nat.toDigits 10 number)) :
    parts? characters = some ⟨negative, digitValues number, none, none⟩ := by
  have taken : takeDigits (Nat.toDigits 10 number) = (digitValues number, []) := by
    simpa [digitValues] using takeDigits_eq (fun _ => isDigit_of_mem_toDigits) [] (by simp)
  have accepted : ((digitValues number).isEmpty ||
      decide ((digitValues number).head? = some 0) &&
        decide ((digitValues number).length > 1)) = false := by
    by_cases leading : (digitValues number).head? = some 0
    · simp [digitValues_ne_nil, length_of_leading_zero leading]
    · simp [digitValues_ne_nil, leading]
  simp [parts?, signed, taken, accepted, exponent?]

/-- Digits without a sign are an integer up to the limit of the significand. -/
theorem denotation?_nonnegative {number : Nat} (fits : number <= significandLimit) :
    denotation? ⟨false, digitValues number, none, none⟩ = some (.integer number) := by
  simp [denotation?, foldl_digitValues, fits]

/-- Digits with a minus sign are an integer down to the limit below. -/
theorem denotation?_negative {number : Nat} (positive : 0 < number)
    (fits : number <= Nat.pow 2 63) :
    denotation? ⟨true, digitValues number, none, none⟩ = some (.integer (-number)) := by
  simp [denotation?, foldl_digitValues, positive, fits]

end Literal

namespace Number

/-- The written form of an integer that a document may hold is a literal of that integer. -/
theorem ofLiteral?_render {number : Number} (integer : number.IsInteger) :
    ofLiteral? number.render = some (some number) := by
  match number, integer with
  | .integer (.ofNat value), integer =>
      have fits : value <= Literal.significandLimit := by
        have bound := integer.2
        simp only [Literal.significandLimit, Nat.pow_eq, Int.ofNat_eq_natCast] at bound ⊢
        omega
      rw [ofLiteral?, render, Literal.parts?_of_takeSign (Literal.takeSign_toDigits value)]
      exact congrArg some (Literal.denotation?_nonnegative fits)
  | .integer (.negSucc value), integer =>
      have fits : value + 1 <= Nat.pow 2 63 := by
        have bound := integer.1
        simp only [Nat.pow_eq, Int.negSucc_eq] at bound ⊢
        omega
      have signed : Literal.takeSign ('-' :: Nat.toDigits 10 (value + 1)) =
          (true, Nat.toDigits 10 (value + 1)) := rfl
      rw [ofLiteral?, render, Literal.parts?_of_takeSign signed]
      exact congrArg some (Literal.denotation?_negative (Nat.succ_pos value) fits)
  | .binary64 value, integer =>
      obtain rfl : value = Binary64.zero true := integer
      decide

end Number

end ContractAtlas.Decimal

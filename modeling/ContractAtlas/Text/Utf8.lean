/-!
# Reading UTF-8 with replacement

Bytes from outside need not be UTF-8. `decodeLossy` reads every well-formed sequence as its
character, and a run of bytes that starts a sequence and breaks off, or a byte that starts none, as
one replacement character.
-/

namespace ContractAtlas.Text

/-- The character that stands for bytes that are no text. -/
def replacement : Char := '\uFFFD'

/-- What the first byte of a longer sequence says: the bits that it contributes, the number of bytes
that follow, and the range of the first of them. -/
def leadingByte? (byte : Nat) : Option (Nat × Nat × Nat × Nat) :=
  if 0xC2 <= byte && byte <= 0xDF then some (byte - 0xC0, 1, 0x80, 0xBF)
  else if byte = 0xE0 then some (0, 2, 0xA0, 0xBF)
  else if byte = 0xED then some (0xD, 2, 0x80, 0x9F)
  else if 0xE1 <= byte && byte <= 0xEF then some (byte - 0xE0, 2, 0x80, 0xBF)
  else if byte = 0xF0 then some (0, 3, 0x90, 0xBF)
  else if 0xF1 <= byte && byte <= 0xF3 then some (byte - 0xF0, 3, 0x80, 0xBF)
  else if byte = 0xF4 then some (4, 3, 0x80, 0x8F)
  else none

/-- Reads `count` more bytes of a sequence, the first of them in a range, on top of `value`. Gives
the value, or none when the sequence breaks off, and the bytes after those that belong to it. -/
def continuation : Nat -> Nat -> Nat -> Nat -> List UInt8 -> Option Nat × List UInt8
  | 0, _, _, value, bytes => (some value, bytes)
  | _ + 1, _, _, _, [] => (none, [])
  | count + 1, low, high, value, byte :: later =>
      if low <= byte.toNat && byte.toNat <= high then
        continuation count 0x80 0xBF (value * 64 + byte.toNat % 64) later
      else (none, byte :: later)

/-- What remains after a sequence is no longer than what was there. -/
theorem length_continuation_le (count low high value : Nat) (bytes : List UInt8) :
    (continuation count low high value bytes).2.length <= bytes.length := by
  induction count generalizing low high value bytes with
  | zero => simp [continuation]
  | succ count inductionHypothesis =>
    cases bytes with
    | nil => simp [continuation]
    | cons byte later =>
      simp only [continuation]
      split
      · exact Nat.le_succ_of_le (inductionHypothesis ..)
      · simp

/-- The characters of a list of bytes. -/
def decodeLossy : List UInt8 -> List Char
  | [] => []
  | byte :: later =>
      if byte.toNat < 0x80 then Char.ofNat byte.toNat :: decodeLossy later
      else
        match leadingByte? byte.toNat with
        | none => replacement :: decodeLossy later
        | some (value, count, low, high) =>
            have := length_continuation_le count low high value later
            ((continuation count low high value later).1.map Char.ofNat).getD replacement ::
              decodeLossy (continuation count low high value later).2
termination_by bytes => bytes.length
decreasing_by all_goals (simp only [List.length_cons]; omega)

/-- The text of a list of bytes. -/
def textOfBytes (bytes : List UInt8) : String :=
  String.ofList (decodeLossy bytes)

end ContractAtlas.Text

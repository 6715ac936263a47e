/-!
# Keccak-256

The sponge over the 1600-bit Keccak permutation with a rate of 136 bytes, the padding that starts
with one set bit, and a digest of 32 bytes. A state is twenty-five lanes of 64 bits; the lane of
column `x` and row `y` has the index `x + 5 * y`.
-/

namespace ContractAtlas.Keccak

/-- The state of the permutation. -/
abbrev State := Vector UInt64 25

/-- The lane of a column and a row, both taken modulo five. -/
def lane (state : State) (x y : Nat) : UInt64 :=
  state.get ⟨x % 5 + 5 * (y % 5), by omega⟩

/-- A state given by the lane of every column and row. -/
def build (value : Nat -> Nat -> UInt64) : State :=
  Vector.ofFn fun index : Fin 25 => value (index.val % 5) (index.val / 5)

/-- A lane rotated towards its high bits. -/
def rotate (value : UInt64) (amount : Nat) : UInt64 :=
  if amount % 64 = 0 then value
  else (value <<< UInt64.ofNat (amount % 64)) ||| (value >>> UInt64.ofNat (64 - amount % 64))

/-- The rotation of every lane. -/
def rotations : Vector Nat 25 :=
  #v[0, 1, 62, 28, 27, 36, 44, 6, 55, 20, 3, 10, 43, 25, 39, 41, 45, 15, 21, 8, 18, 2, 61, 56, 14]

/-- The constants of the twenty-four rounds. -/
def roundConstants : List UInt64 :=
  [0x0000000000000001, 0x0000000000008082, 0x800000000000808A, 0x8000000080008000,
   0x000000000000808B, 0x0000000080000001, 0x8000000080008081, 0x8000000000008009,
   0x000000000000008A, 0x0000000000000088, 0x0000000080008009, 0x000000008000000A,
   0x000000008000808B, 0x800000000000008B, 0x8000000000008089, 0x8000000000008003,
   0x8000000000008002, 0x8000000000000080, 0x000000000000800A, 0x800000008000000A,
   0x8000000080008081, 0x8000000000008080, 0x0000000080000001, 0x8000000080008008]

/-- The exclusive or of the lanes of a column. -/
def columnParity (state : State) (x : Nat) : UInt64 :=
  lane state x 0 ^^^ lane state x 1 ^^^ lane state x 2 ^^^ lane state x 3 ^^^ lane state x 4

/-- The step that adds the parity of the two neighbouring columns to every lane. -/
def theta (state : State) : State :=
  build fun x y =>
    lane state x y ^^^ columnParity state (x + 4) ^^^ rotate (columnParity state (x + 1)) 1

/-- The step that rotates every lane and moves it to its new place. -/
def rhoPi (state : State) : State :=
  build fun x y =>
    let column := (x + 3 * y) % 5
    rotate (lane state column x) (rotations.get ⟨column + 5 * (x % 5), by omega⟩)

/-- The step that combines every lane with the next two of its row. -/
def chi (state : State) : State :=
  build fun x y => lane state x y ^^^ (~~~ lane state (x + 1) y &&& lane state (x + 2) y)

/-- The step that adds the round constant to the first lane. -/
def iota (constant : UInt64) (state : State) : State :=
  build fun x y => if x = 0 && y = 0 then lane state x y ^^^ constant else lane state x y

/-- The permutation. -/
def permute (state : State) : State :=
  roundConstants.foldl (fun state constant => iota constant (chi (rhoPi (theta state)))) state

/-- The number of bytes that one block adds to the state. -/
def rate : Nat := 136

/-- A message with its padding: one set bit, zeros, and the high bit of the last byte of a
block. -/
def pad (message : List UInt8) : List UInt8 :=
  let missing := rate - message.length % rate
  if missing = 1 then message ++ [0x81]
  else message ++ [0x01] ++ List.replicate (missing - 2) 0 ++ [0x80]

/-- The number whose bytes, lowest first, are given. -/
def littleEndian (bytes : List UInt8) : UInt64 :=
  bytes.foldr (fun byte value => value * 256 + byte.toUInt64) 0

/-- The state after one more block of bytes. -/
def absorb (state : State) (block : List UInt8) : State :=
  permute (build fun x y =>
    let index := x + 5 * y
    if index < 17 then lane state x y ^^^ littleEndian ((block.drop (8 * index)).take 8)
    else lane state x y)

/-- The state after as many blocks as given. -/
def absorbAll : Nat -> State -> List UInt8 -> State
  | 0, state, _ => state
  | blocks + 1, state, bytes => absorbAll blocks (absorb state (bytes.take rate)) (bytes.drop rate)

/-- The eight bytes of a lane, lowest first. -/
def laneBytes (value : UInt64) : List UInt8 :=
  (List.range 8).map fun index => (value >>> UInt64.ofNat (8 * index)).toUInt8

/-- The digest of a message, thirty-two bytes. -/
def digest (message : List UInt8) : List UInt8 :=
  let padded := pad message
  let state := absorbAll (padded.length / rate) (Vector.replicate 25 0) padded
  laneBytes (lane state 0 0) ++ laneBytes (lane state 1 0) ++ laneBytes (lane state 2 0) ++
    laneBytes (lane state 3 0)

end ContractAtlas.Keccak

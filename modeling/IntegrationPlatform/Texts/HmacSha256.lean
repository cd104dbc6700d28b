import Mathlib.Algebra.Group.Nat.Defs
import Mathlib.Data.List.Basic
/-!
# HMAC-SHA256 and Base64

The hash function SHA-256 on lists of bytes, the authentication code that it gives, and the letters in which bytes
are written. A code has 32 bytes, and 44 letters.
-/

namespace IntegrationPlatform

namespace Sha256

/-! ## Words

Words are numbers below `2 ^ 32`. -/

/-- A number, modulo the size of a word. -/
def wrap (number : Nat) : Nat :=
  number % 0x100000000

/-- The constants of the rounds. -/
def roundConstants : List Nat :=
  [0x428a2f98, 0x71374491, 0xb5c0fbcf, 0xe9b5dba5, 0x3956c25b, 0x59f111f1, 0x923f82a4, 0xab1c5ed5,
   0xd807aa98, 0x12835b01, 0x243185be, 0x550c7dc3, 0x72be5d74, 0x80deb1fe, 0x9bdc06a7, 0xc19bf174,
   0xe49b69c1, 0xefbe4786, 0x0fc19dc6, 0x240ca1cc, 0x2de92c6f, 0x4a7484aa, 0x5cb0a9dc, 0x76f988da,
   0x983e5152, 0xa831c66d, 0xb00327c8, 0xbf597fc7, 0xc6e00bf3, 0xd5a79147, 0x06ca6351, 0x14292967,
   0x27b70a85, 0x2e1b2138, 0x4d2c6dfc, 0x53380d13, 0x650a7354, 0x766a0abb, 0x81c2c92e, 0x92722c85,
   0xa2bfe8a1, 0xa81a664b, 0xc24b8b70, 0xc76c51a3, 0xd192e819, 0xd6990624, 0xf40e3585, 0x106aa070,
   0x19a4c116, 0x1e376c08, 0x2748774c, 0x34b0bcb5, 0x391c0cb3, 0x4ed8aa4a, 0x5b9cca4f, 0x682e6ff3,
   0x748f82ee, 0x78a5636f, 0x84c87814, 0x8cc70208, 0x90befffa, 0xa4506ceb, 0xbef9a3f7, 0xc67178f2]

/-- The eight words of a hash. -/
structure State where
  a : Nat
  b : Nat
  c : Nat
  d : Nat
  e : Nat
  f : Nat
  g : Nat
  h : Nat

/-- The words to start with. -/
def initial : State :=
  ⟨0x6a09e667, 0xbb67ae85, 0x3c6ef372, 0xa54ff53a, 0x510e527f, 0x9b05688c, 0x1f83d9ab, 0x5be0cd19⟩

/-- The word by word sum of hashes. -/
def State.add (state other : State) : State where
  a := wrap (state.a + other.a)
  b := wrap (state.b + other.b)
  c := wrap (state.c + other.c)
  d := wrap (state.d + other.d)
  e := wrap (state.e + other.e)
  f := wrap (state.f + other.f)
  g := wrap (state.g + other.g)
  h := wrap (state.h + other.h)

/-- A rotation to the right. -/
def rotr (word count : Nat) : Nat :=
  (word >>> count) ||| wrap (word <<< (32 - count))

/-- A round, with its constant and its word. -/
def round (state : State) (constant word : Nat) : State :=
  let sum1 := rotr state.e 6 ^^^ rotr state.e 11 ^^^ rotr state.e 25
  let choice := (state.e &&& state.f) ^^^ ((0xffffffff ^^^ state.e) &&& state.g)
  let first := wrap (state.h + sum1 + choice + constant + word)
  let sum0 := rotr state.a 2 ^^^ rotr state.a 13 ^^^ rotr state.a 22
  let majority := (state.a &&& state.b) ^^^ (state.a &&& state.c) ^^^ (state.b &&& state.c)
  { a := wrap (first + (sum0 + majority)), b := state.a, c := state.b, d := state.c
    e := wrap (state.d + first), f := state.e, g := state.f, h := state.g }

/-- The word of the schedule that comes after sixteen others. -/
def nextWord : List Nat → Nat
  | [w0, w1, _, _, _, _, _, _, _, w9, _, _, _, _, w14, _] =>
      wrap ((rotr w14 17 ^^^ rotr w14 19 ^^^ (w14 >>> 10)) + w9 +
        (rotr w1 7 ^^^ rotr w1 18 ^^^ (w1 >>> 3)) + w0)
  | _ => 0

/-- The rounds of a block, with the next sixteen words of the schedule. -/
def rounds : (constants window : List Nat) → State → State
  | constant :: constants, word :: window, state =>
      rounds constants (window ++ [nextWord (word :: window)]) (round state constant word)
  | _, _, state => state

/-! ## Bytes -/

/-- The words of some bytes, the first byte highest. -/
def wordsOf : List UInt8 → List Nat
  | byte0 :: byte1 :: byte2 :: byte3 :: rest =>
      (byte0.toNat <<< 24 ||| byte1.toNat <<< 16 ||| byte2.toNat <<< 8 ||| byte3.toNat) ::
        wordsOf rest
  | _ => []

/-- The last bytes of a number, the highest first. -/
def bytesOf (count number : Nat) : List UInt8 :=
  (List.range count).map fun index => UInt8.ofNat (number / 256 ^ (count - 1 - index))

/-- A message, a one bit, zeros up to a multiple of the size of a block, and the length in bits. -/
def pad (message : List UInt8) : List UInt8 :=
  message ++ 128 :: List.replicate ((119 - message.length % 64) % 64) 0 ++ bytesOf 8 (8 * message.length)

/-- The hash of a block after that of the blocks before it. -/
def compress (state : State) (block : List UInt8) : State :=
  state.add (rounds roundConstants (wordsOf block) state)

/-- The hash of blocks of 64 bytes. -/
def absorb : (blocks : Nat) → List UInt8 → State → State
  | 0, _, state => state
  | blocks + 1, bytes, state => absorb blocks (bytes.drop 64) (compress state (bytes.take 64))

/-- The bytes of a hash. -/
def State.bytes (state : State) : List UInt8 :=
  [state.a, state.b, state.c, state.d, state.e, state.f, state.g, state.h].flatMap fun word =>
    bytesOf 4 word

/-- `hashlib.sha256(message).digest()`. -/
def sha256 (message : List UInt8) : List UInt8 :=
  (absorb ((pad message).length / 64) (pad message) initial).bytes

example : (sha256 [97, 98, 99]).take 4 = [0xba, 0x78, 0x16, 0xbf] := by decide +kernel

end Sha256

namespace Hmac

/-- A key of the size of a block: a longer one is hashed, and a shorter one is followed by zeros. -/
def blockKey (key : List UInt8) : List UInt8 :=
  let short := if 64 < key.length then Sha256.sha256 key else key
  short ++ List.replicate (64 - short.length) 0

/-- `hmac.new(key, message, hashlib.sha256).digest()`. -/
def hmacSha256 (key message : List UInt8) : List UInt8 :=
  Sha256.sha256 ((blockKey key).map (· ^^^ 0x5c) ++
    Sha256.sha256 ((blockKey key).map (· ^^^ 0x36) ++ message))

end Hmac

namespace Base64

/-- The letter of six bits. -/
def letterOf (number : Nat) : Char :=
  if number < 26 then Char.ofNat (65 + number)
  else if number < 52 then Char.ofNat (71 + number)
  else if number < 62 then Char.ofNat (number - 4)
  else if number = 62 then '+'
  else '/'

/-- `base64.b64encode(bytes)`. -/
def encode : List UInt8 → List Char
  | byte0 :: byte1 :: byte2 :: rest =>
      letterOf (byte0.toNat / 4) :: letterOf (byte0.toNat % 4 * 16 + byte1.toNat / 16) ::
        letterOf (byte1.toNat % 16 * 4 + byte2.toNat / 64) :: letterOf (byte2.toNat % 64) :: encode rest
  | [byte0, byte1] =>
      [letterOf (byte0.toNat / 4), letterOf (byte0.toNat % 4 * 16 + byte1.toNat / 16),
       letterOf (byte1.toNat % 16 * 4), '=']
  | [byte0] => [letterOf (byte0.toNat / 4), letterOf (byte0.toNat % 4 * 16), '=', '=']
  | [] => []

end Base64

end IntegrationPlatform

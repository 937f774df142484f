import Mathlib.Algebra.Group.Nat.Defs
import SuderraOs.Lib.Hex

/-!
# SHA-256

The digest of bytes. A word is a number below `2 ^ 32`. The message is padded to whole blocks (`length_padded`), and a digest has 32
bytes (`length_digest`).
-/

namespace SuderraOs.Sha256

def roundConstants : List Nat :=
  [0x428a2f98, 0x71374491, 0xb5c0fbcf, 0xe9b5dba5, 0x3956c25b, 0x59f111f1, 0x923f82a4, 0xab1c5ed5, 0xd807aa98, 0x12835b01, 0x243185be,
    0x550c7dc3, 0x72be5d74, 0x80deb1fe, 0x9bdc06a7, 0xc19bf174, 0xe49b69c1, 0xefbe4786, 0x0fc19dc6, 0x240ca1cc, 0x2de92c6f, 0x4a7484aa,
    0x5cb0a9dc, 0x76f988da, 0x983e5152, 0xa831c66d, 0xb00327c8, 0xbf597fc7, 0xc6e00bf3, 0xd5a79147, 0x06ca6351, 0x14292967, 0x27b70a85,
    0x2e1b2138, 0x4d2c6dfc, 0x53380d13, 0x650a7354, 0x766a0abb, 0x81c2c92e, 0x92722c85, 0xa2bfe8a1, 0xa81a664b, 0xc24b8b70, 0xc76c51a3,
    0xd192e819, 0xd6990624, 0xf40e3585, 0x106aa070, 0x19a4c116, 0x1e376c08, 0x2748774c, 0x34b0bcb5, 0x391c0cb3, 0x4ed8aa4a, 0x5b9cca4f,
    0x682e6ff3, 0x748f82ee, 0x78a5636f, 0x84c87814, 0x8cc70208, 0x90befffa, 0xa4506ceb, 0xbef9a3f7, 0xc67178f2]

/-- The eight words between two blocks. -/
structure State where
  a : Nat
  b : Nat
  c : Nat
  d : Nat
  e : Nat
  f : Nat
  g : Nat
  h : Nat

def initial : State := ⟨0x6a09e667, 0xbb67ae85, 0x3c6ef372, 0xa54ff53a, 0x510e527f, 0x9b05688c, 0x1f83d9ab, 0x5be0cd19⟩

/-- A word, rotated to the right. -/
def rotr (n x : Nat) : Nat := (x >>> n ||| x <<< (32 - n)) % 2 ^ 32

/-- A round, with its constant and its word. -/
def round (s : State) (k w : Nat) : State :=
  let choice := (s.e &&& s.f) ^^^ ((2 ^ 32 - 1 - s.e) &&& s.g)
  let majority := (s.a &&& s.b) ^^^ (s.a &&& s.c) ^^^ (s.b &&& s.c)
  let t := s.h + (rotr 6 s.e ^^^ rotr 11 s.e ^^^ rotr 25 s.e) + choice + k + w
  ⟨(t + (rotr 2 s.a ^^^ rotr 13 s.a ^^^ rotr 22 s.a) + majority) % 2 ^ 32, s.a, s.b, s.c, (s.d + t) % 2 ^ 32, s.e, s.f, s.g⟩

/-- The first `n` words that go on from sixteen. -/
def schedule : Nat → List Nat → List Nat
  | n + 1, [w₀, w₁, w₂, w₃, w₄, w₅, w₆, w₇, w₈, w₉, w₁₀, w₁₁, w₁₂, w₁₃, w₁₄, w₁₅] =>
    let next := w₀ + (rotr 7 w₁ ^^^ rotr 18 w₁ ^^^ w₁ >>> 3) + w₉ + (rotr 17 w₁₄ ^^^ rotr 19 w₁₄ ^^^ w₁₄ >>> 10)
    w₀ :: schedule n [w₁, w₂, w₃, w₄, w₅, w₆, w₇, w₈, w₉, w₁₀, w₁₁, w₁₂, w₁₃, w₁₄, w₁₅, next % 2 ^ 32]
  | _, _ => []

def compress (s : State) (block : List Nat) : State :=
  let t := (roundConstants.zip (schedule 64 block)).foldl (fun s p => round s p.1 p.2) s
  ⟨(s.a + t.a) % 2 ^ 32, (s.b + t.b) % 2 ^ 32, (s.c + t.c) % 2 ^ 32, (s.d + t.d) % 2 ^ 32, (s.e + t.e) % 2 ^ 32, (s.f + t.f) % 2 ^ 32,
    (s.g + t.g) % 2 ^ 32, (s.h + t.h) % 2 ^ 32⟩

/-- The last `n` bytes of a number, the highest first. -/
def bigEndian : Nat → Nat → List UInt8
  | 0, _ => []
  | n + 1, x => UInt8.ofNat (x / 256 ^ n) :: bigEndian n x

/-- A message with a one, zeros and its length in bits after it. -/
def padded (message : List UInt8) : List UInt8 :=
  message ++ 0x80 :: (List.replicate ((119 - message.length % 64) % 64) 0 ++ bigEndian 8 (8 * message.length))

/-- The words of bytes, the highest byte first. -/
def words : List UInt8 → List Nat
  | b₀ :: b₁ :: b₂ :: b₃ :: bytes => (b₀.toNat * 2 ^ 24 + b₁.toNat * 2 ^ 16 + b₂.toNat * 2 ^ 8 + b₃.toNat) :: words bytes
  | _ => []

/-- The state after `n` blocks. -/
def compressBlocks : Nat → State → List Nat → State
  | 0, s, _ => s
  | n + 1, s, ws => compressBlocks n (compress s (ws.take 16)) (ws.drop 16)

def digest (message : List UInt8) : List UInt8 :=
  let bytes := padded message
  let s := compressBlocks (bytes.length / 64) initial (words bytes)
  [s.a, s.b, s.c, s.d, s.e, s.f, s.g, s.h].flatMap (bigEndian 4)

@[simp] theorem length_bigEndian (n x : Nat) : (bigEndian n x).length = n := by
  induction n with
  | zero => rfl
  | succ n ih => rw [bigEndian, List.length_cons, ih]

/-- A message is padded to whole blocks. -/
theorem length_padded (message : List UInt8) : (padded message).length % 64 = 0 := by
  simp only [padded, List.length_append, List.length_cons, List.length_replicate, length_bigEndian]
  omega

@[simp] theorem length_digest (message : List UInt8) : (digest message).length = 32 := by
  simp [digest]

example : Hex.encode (digest [0x61, 0x62, 0x63]) =
    "ba7816bf8f01cfea414140de5dae2223b00361a396177a9cb410ff61f20015ad".toList := by decide +kernel

end SuderraOs.Sha256

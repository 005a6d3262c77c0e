/-
SHA-256 and its shortened form SHA-224: eight 32-bit words of state and
sixty-four steps a block. The two differ in the initial state and in how
much of the final one is the digest.
-/
import Pkcs12.Hash.Basic

set_option maxRecDepth 2000

namespace Pkcs12.Hash.Sha256

/-- The state between two blocks. -/
structure State where
  a : UInt32
  b : UInt32
  c : UInt32
  d : UInt32
  e : UInt32
  f : UInt32
  g : UInt32
  h : UInt32

/-- The step constants: the first 32 bits of the fractional parts of the
cube roots of the first sixty-four primes. -/
def roots : Array UInt32 := #[
  0x428A2F98, 0x71374491, 0xB5C0FBCF, 0xE9B5DBA5, 0x3956C25B, 0x59F111F1,
  0x923F82A4, 0xAB1C5ED5, 0xD807AA98, 0x12835B01, 0x243185BE, 0x550C7DC3,
  0x72BE5D74, 0x80DEB1FE, 0x9BDC06A7, 0xC19BF174, 0xE49B69C1, 0xEFBE4786,
  0x0FC19DC6, 0x240CA1CC, 0x2DE92C6F, 0x4A7484AA, 0x5CB0A9DC, 0x76F988DA,
  0x983E5152, 0xA831C66D, 0xB00327C8, 0xBF597FC7, 0xC6E00BF3, 0xD5A79147,
  0x06CA6351, 0x14292967, 0x27B70A85, 0x2E1B2138, 0x4D2C6DFC, 0x53380D13,
  0x650A7354, 0x766A0ABB, 0x81C2C92E, 0x92722C85, 0xA2BFE8A1, 0xA81A664B,
  0xC24B8B70, 0xC76C51A3, 0xD192E819, 0xD6990624, 0xF40E3585, 0x106AA070,
  0x19A4C116, 0x1E376C08, 0x2748774C, 0x34B0BCB5, 0x391C0CB3, 0x4ED8AA4A,
  0x5B9CCA4F, 0x682E6FF3, 0x748F82EE, 0x78A5636F, 0x84C87814, 0x8CC70208,
  0x90BEFFFA, 0xA4506CEB, 0xBEF9A3F7, 0xC67178F2]

/-- Appends the next word of the schedule. -/
def extend (w : Array UInt32) : Array UInt32 :=
  let n := w.size
  let x := w.getD (n - 15) 0
  let y := w.getD (n - 2) 0
  let s := turnRight32 x 7 ^^^ turnRight32 x 18 ^^^ x >>> 3
  let t := turnRight32 y 17 ^^^ turnRight32 y 19 ^^^ y >>> 10
  w.push (w.getD (n - 16) 0 + s + w.getD (n - 7) 0 + t)

/-- The words of a block: its own sixteen and those that follow from
them. -/
def schedule (block : Bytes) : Array UInt32 :=
  (List.range 48).foldl (fun w _ => extend w) (words32 block).toArray

/-- Step `i` with the schedule `w`. -/
def step (w : Array UInt32) (s : State) (i : Nat) : State :=
  let e := s.e
  let a := s.a
  let choice := (e &&& s.f) ^^^ (~~~e &&& s.g)
  let majority := (a &&& s.b) ^^^ (a &&& s.c) ^^^ (s.b &&& s.c)
  let t := s.h + (turnRight32 e 6 ^^^ turnRight32 e 11 ^^^ turnRight32 e 25)
    + choice + roots.getD i 0 + w.getD i 0
  let u := (turnRight32 a 2 ^^^ turnRight32 a 13 ^^^ turnRight32 a 22) + majority
  ⟨t + u, a, s.b, s.c, s.d + t, e, s.f, s.g⟩

/-- The state after a block. -/
def absorb (s : State) (block : Bytes) : State :=
  let t := (List.range 64).foldl (step (schedule block)) s
  ⟨s.a + t.a, s.b + t.b, s.c + t.c, s.d + t.d, s.e + t.e, s.f + t.f, s.g + t.g, s.h + t.h⟩

/-- The state after a message, from the given one. -/
def final (initial : State) (m : Bytes) : State :=
  (blocks 64 8 m).foldl absorb initial

-- ============================================================= SHA-224

/-- The state before the first block of SHA-224: the second 32 bits
of the fractional parts of the square roots of the ninth to sixteenth prime. -/
def initial224 : State :=
  ⟨0xC1059ED8, 0x367CD507, 0x3070DD17, 0xF70E5939,
    0xFFC00B31, 0x68581511, 0x64F98FA7, 0xBEFA4FA4⟩

def digest224 (m : Bytes) : Bytes :=
  let s := final initial224 m
  octets32 s.a ++ octets32 s.b ++ octets32 s.c ++ octets32 s.d
    ++ octets32 s.e ++ octets32 s.f ++ octets32 s.g

theorem length_digest224 (m : Bytes) : (digest224 m).length = 28 := rfl

-- ============================================================= SHA-256

/-- The state before the first block of SHA-256: the first 32 bits
of the fractional parts of the square roots of the first eight primes. -/
def initial256 : State :=
  ⟨0x6A09E667, 0xBB67AE85, 0x3C6EF372, 0xA54FF53A,
    0x510E527F, 0x9B05688C, 0x1F83D9AB, 0x5BE0CD19⟩

def digest256 (m : Bytes) : Bytes :=
  let s := final initial256 m
  octets32 s.a ++ octets32 s.b ++ octets32 s.c ++ octets32 s.d
    ++ octets32 s.e ++ octets32 s.f ++ octets32 s.g ++ octets32 s.h

theorem length_digest256 (m : Bytes) : (digest256 m).length = 32 := rfl

end Pkcs12.Hash.Sha256

namespace Pkcs12.Hash

def sha224 : Hash where
  digestSize := 28
  digest := Sha256.digest224
  digestSize_pos := by decide
  length_digest := Sha256.length_digest224

def sha256 : Hash where
  digestSize := 32
  digest := Sha256.digest256
  digestSize_pos := by decide
  length_digest := Sha256.length_digest256

end Pkcs12.Hash

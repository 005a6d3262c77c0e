/-
SHA-512 and its shortened form SHA-384: eight 64-bit words of state and
eighty steps a block. The two differ in the initial state and in how much
of the final one is the digest.
-/
import Pkcs12.Hash.Basic

set_option maxRecDepth 2000

namespace Pkcs12.Hash.Sha512

/-- The state between two blocks. -/
structure State where
  a : UInt64
  b : UInt64
  c : UInt64
  d : UInt64
  e : UInt64
  f : UInt64
  g : UInt64
  h : UInt64

/-- The step constants: the first 64 bits of the fractional parts of the
cube roots of the first eighty primes. -/
def roots : Array UInt64 := #[
  0x428A2F98D728AE22, 0x7137449123EF65CD, 0xB5C0FBCFEC4D3B2F, 0xE9B5DBA58189DBBC,
  0x3956C25BF348B538, 0x59F111F1B605D019, 0x923F82A4AF194F9B, 0xAB1C5ED5DA6D8118,
  0xD807AA98A3030242, 0x12835B0145706FBE, 0x243185BE4EE4B28C, 0x550C7DC3D5FFB4E2,
  0x72BE5D74F27B896F, 0x80DEB1FE3B1696B1, 0x9BDC06A725C71235, 0xC19BF174CF692694,
  0xE49B69C19EF14AD2, 0xEFBE4786384F25E3, 0x0FC19DC68B8CD5B5, 0x240CA1CC77AC9C65,
  0x2DE92C6F592B0275, 0x4A7484AA6EA6E483, 0x5CB0A9DCBD41FBD4, 0x76F988DA831153B5,
  0x983E5152EE66DFAB, 0xA831C66D2DB43210, 0xB00327C898FB213F, 0xBF597FC7BEEF0EE4,
  0xC6E00BF33DA88FC2, 0xD5A79147930AA725, 0x06CA6351E003826F, 0x142929670A0E6E70,
  0x27B70A8546D22FFC, 0x2E1B21385C26C926, 0x4D2C6DFC5AC42AED, 0x53380D139D95B3DF,
  0x650A73548BAF63DE, 0x766A0ABB3C77B2A8, 0x81C2C92E47EDAEE6, 0x92722C851482353B,
  0xA2BFE8A14CF10364, 0xA81A664BBC423001, 0xC24B8B70D0F89791, 0xC76C51A30654BE30,
  0xD192E819D6EF5218, 0xD69906245565A910, 0xF40E35855771202A, 0x106AA07032BBD1B8,
  0x19A4C116B8D2D0C8, 0x1E376C085141AB53, 0x2748774CDF8EEB99, 0x34B0BCB5E19B48A8,
  0x391C0CB3C5C95A63, 0x4ED8AA4AE3418ACB, 0x5B9CCA4F7763E373, 0x682E6FF3D6B2B8A3,
  0x748F82EE5DEFB2FC, 0x78A5636F43172F60, 0x84C87814A1F0AB72, 0x8CC702081A6439EC,
  0x90BEFFFA23631E28, 0xA4506CEBDE82BDE9, 0xBEF9A3F7B2C67915, 0xC67178F2E372532B,
  0xCA273ECEEA26619C, 0xD186B8C721C0C207, 0xEADA7DD6CDE0EB1E, 0xF57D4F7FEE6ED178,
  0x06F067AA72176FBA, 0x0A637DC5A2C898A6, 0x113F9804BEF90DAE, 0x1B710B35131C471B,
  0x28DB77F523047D84, 0x32CAAB7B40C72493, 0x3C9EBE0A15C9BEBC, 0x431D67C49C100D4C,
  0x4CC5D4BECB3E42B6, 0x597F299CFC657E2A, 0x5FCB6FAB3AD6FAEC, 0x6C44198C4A475817]

/-- Appends the next word of the schedule. -/
def extend (w : Array UInt64) : Array UInt64 :=
  let n := w.size
  let x := w.getD (n - 15) 0
  let y := w.getD (n - 2) 0
  let s := turnRight64 x 1 ^^^ turnRight64 x 8 ^^^ x >>> 7
  let t := turnRight64 y 19 ^^^ turnRight64 y 61 ^^^ y >>> 6
  w.push (w.getD (n - 16) 0 + s + w.getD (n - 7) 0 + t)

/-- The words of a block: its own sixteen and those that follow from
them. -/
def schedule (block : Bytes) : Array UInt64 :=
  (List.range 64).foldl (fun w _ => extend w) (words64 block).toArray

/-- Step `i` with the schedule `w`. -/
def step (w : Array UInt64) (s : State) (i : Nat) : State :=
  let e := s.e
  let a := s.a
  let choice := (e &&& s.f) ^^^ (~~~e &&& s.g)
  let majority := (a &&& s.b) ^^^ (a &&& s.c) ^^^ (s.b &&& s.c)
  let t := s.h + (turnRight64 e 14 ^^^ turnRight64 e 18 ^^^ turnRight64 e 41)
    + choice + roots.getD i 0 + w.getD i 0
  let u := (turnRight64 a 28 ^^^ turnRight64 a 34 ^^^ turnRight64 a 39) + majority
  ⟨t + u, a, s.b, s.c, s.d + t, e, s.f, s.g⟩

/-- The state after a block. -/
def absorb (s : State) (block : Bytes) : State :=
  let t := (List.range 80).foldl (step (schedule block)) s
  ⟨s.a + t.a, s.b + t.b, s.c + t.c, s.d + t.d, s.e + t.e, s.f + t.f, s.g + t.g, s.h + t.h⟩

/-- The state after a message, from the given one. -/
def final (initial : State) (m : Bytes) : State :=
  (blocks 128 16 m).foldl absorb initial

-- ============================================================= SHA-384

/-- The state before the first block of SHA-384: 64 bits of
the fractional parts of the square roots of the ninth to sixteenth prime. -/
def initial384 : State :=
  ⟨0xCBBB9D5DC1059ED8, 0x629A292A367CD507, 0x9159015A3070DD17, 0x152FECD8F70E5939,
    0x67332667FFC00B31, 0x8EB44A8768581511, 0xDB0C2E0D64F98FA7, 0x47B5481DBEFA4FA4⟩

def digest384 (m : Bytes) : Bytes :=
  let s := final initial384 m
  octets64 s.a ++ octets64 s.b ++ octets64 s.c ++ octets64 s.d
    ++ octets64 s.e ++ octets64 s.f

theorem length_digest384 (m : Bytes) : (digest384 m).length = 48 := rfl

-- ============================================================= SHA-512

/-- The state before the first block of SHA-512: 64 bits of
the fractional parts of the square roots of the first eight primes. -/
def initial512 : State :=
  ⟨0x6A09E667F3BCC908, 0xBB67AE8584CAA73B, 0x3C6EF372FE94F82B, 0xA54FF53A5F1D36F1,
    0x510E527FADE682D1, 0x9B05688C2B3E6C1F, 0x1F83D9ABFB41BD6B, 0x5BE0CD19137E2179⟩

def digest512 (m : Bytes) : Bytes :=
  let s := final initial512 m
  octets64 s.a ++ octets64 s.b ++ octets64 s.c ++ octets64 s.d
    ++ octets64 s.e ++ octets64 s.f ++ octets64 s.g ++ octets64 s.h

theorem length_digest512 (m : Bytes) : (digest512 m).length = 64 := rfl

end Pkcs12.Hash.Sha512

namespace Pkcs12.Hash

def sha384 : Hash where
  digestSize := 48
  digest := Sha512.digest384
  digestSize_pos := by decide
  length_digest := Sha512.length_digest384

def sha512 : Hash where
  digestSize := 64
  digest := Sha512.digest512
  digestSize_pos := by decide
  length_digest := Sha512.length_digest512

end Pkcs12.Hash

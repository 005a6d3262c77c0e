/-
SHA-1: five 32-bit words of state and eighty steps a block.
-/
import Pkcs12.Hash.Basic

namespace Pkcs12.Hash.Sha1

/-- The state between two blocks. -/
structure State where
  a : UInt32
  b : UInt32
  c : UInt32
  d : UInt32
  e : UInt32

/-- The state before the first block. -/
def initial : State :=
  ⟨0x67452301, 0xEFCDAB89, 0x98BADCFE, 0x10325476, 0xC3D2E1F0⟩

/-- The schedule with its next word, made from four of the sixteen before it. -/
@[inline] def extend (w : Array UInt32) : Array UInt32 :=
  let n := w.size
  let x := w.getD (n - 3) 0 ^^^ w.getD (n - 8) 0 ^^^ w.getD (n - 14) 0 ^^^ w.getD (n - 16) 0
  w.push (turnLeft32 x 1)

/-- The eighty words of a block: its own sixteen and those that follow
from them. -/
def schedule (block : Bytes) : Array UInt32 :=
  (List.range 64).foldl (fun w _ => extend w) (words32 block).toArray

/-- The nonlinear function and the constant of step `i`. -/
@[inline] def mix (i : Nat) (b c d : UInt32) : UInt32 × UInt32 :=
  if i < 20 then ((b &&& c) ||| (~~~b &&& d), 0x5A827999)
  else if i < 40 then (b ^^^ c ^^^ d, 0x6ED9EBA1)
  else if i < 60 then ((b &&& c) ||| (b &&& d) ||| (c &&& d), 0x8F1BBCDC)
  else (b ^^^ c ^^^ d, 0xCA62C1D6)

/-- The last `left` of the eighty steps with the schedule `w`, on a state
given by its words. -/
def steps (w : Array UInt32) (a b c d e : UInt32) : (left : Nat) → State
  | 0 => ⟨a, b, c, d, e⟩
  | left + 1 =>
    let i := 79 - left
    let (f, k) := mix i b c d
    steps w (turnLeft32 a 5 + f + e + k + w.getD i 0) a (turnLeft32 b 30) c d left

/-- The state after a block. -/
def absorb (s : State) (block : Bytes) : State :=
  let t := steps (schedule block) s.a s.b s.c s.d s.e 80
  ⟨s.a + t.a, s.b + t.b, s.c + t.c, s.d + t.d, s.e + t.e⟩

def digest (m : Bytes) : Bytes :=
  let s := (blocks 64 8 m).foldl absorb initial
  octets32 s.a ++ octets32 s.b ++ octets32 s.c ++ octets32 s.d ++ octets32 s.e

theorem length_digest (m : Bytes) : (digest m).length = 20 := rfl

end Pkcs12.Hash.Sha1

namespace Pkcs12.Hash

def sha1 : Hash where
  digestSize := 20
  digest := Sha1.digest
  digestSize_pos := by decide
  length_digest := Sha1.length_digest

end Pkcs12.Hash

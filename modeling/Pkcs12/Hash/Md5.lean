/-
MD5: four 32-bit words of state, sixty-four steps a block, everything
least significant octet first.
-/
import Pkcs12.Hash.Basic

set_option maxRecDepth 2000

namespace Pkcs12.Hash.Md5

/-- The state between two blocks. -/
structure State where
  a : UInt32
  b : UInt32
  c : UInt32
  d : UInt32

/-- The state before the first block. -/
def initial : State := ⟨0x67452301, 0xEFCDAB89, 0x98BADCFE, 0x10325476⟩

/-- The step constants, the integer part of `2 ^ 32` times the sine of
the step number. -/
def sines : Array UInt32 := #[
  0xD76AA478, 0xE8C7B756, 0x242070DB, 0xC1BDCEEE, 0xF57C0FAF, 0x4787C62A,
  0xA8304613, 0xFD469501, 0x698098D8, 0x8B44F7AF, 0xFFFF5BB1, 0x895CD7BE,
  0x6B901122, 0xFD987193, 0xA679438E, 0x49B40821, 0xF61E2562, 0xC040B340,
  0x265E5A51, 0xE9B6C7AA, 0xD62F105D, 0x02441453, 0xD8A1E681, 0xE7D3FBC8,
  0x21E1CDE6, 0xC33707D6, 0xF4D50D87, 0x455A14ED, 0xA9E3E905, 0xFCEFA3F8,
  0x676F02D9, 0x8D2A4C8A, 0xFFFA3942, 0x8771F681, 0x6D9D6122, 0xFDE5380C,
  0xA4BEEA44, 0x4BDECFA9, 0xF6BB4B60, 0xBEBFBC70, 0x289B7EC6, 0xEAA127FA,
  0xD4EF3085, 0x04881D05, 0xD9D4D039, 0xE6DB99E5, 0x1FA27CF8, 0xC4AC5665,
  0xF4292244, 0x432AFF97, 0xAB9423A7, 0xFC93A039, 0x655B59C3, 0x8F0CCC92,
  0xFFEFF47D, 0x85845DD1, 0x6FA87E4F, 0xFE2CE6E0, 0xA3014314, 0x4E0811A1,
  0xF7537E82, 0xBD3AF235, 0x2AD7D2BB, 0xEB86D391]

/-- How far each step turns, by quarter and position in it. -/
def turns : Array UInt32 := #[7, 12, 17, 22, 5, 9, 14, 20, 4, 11, 16, 23, 6, 10, 15, 21]

/-- The word at an octet string's front, least significant octet first. -/
def words : Bytes → List UInt32
  | a :: b :: c :: d :: rest =>
    (a.toUInt32 ||| b.toUInt32 <<< 8 ||| c.toUInt32 <<< 16 ||| d.toUInt32 <<< 24)
      :: words rest
  | _ => []

/-- The nonlinear function of a step and the message word it takes. -/
def mix (i : Nat) (s : State) : UInt32 × Nat :=
  if i < 16 then ((s.b &&& s.c) ||| (~~~s.b &&& s.d), i)
  else if i < 32 then ((s.d &&& s.b) ||| (~~~s.d &&& s.c), (5 * i + 1) % 16)
  else if i < 48 then (s.b ^^^ s.c ^^^ s.d, (3 * i + 5) % 16)
  else (s.c ^^^ (s.b ||| ~~~s.d), 7 * i % 16)

/-- Step `i` of a block with the given words. -/
def step (block : Array UInt32) (s : State) (i : Nat) : State :=
  let (f, g) := mix i s
  let sum := s.a + f + sines.getD i 0 + block.getD g 0
  let turn := turns.getD (4 * (i / 16) + i % 4) 0
  ⟨s.d, s.b + turnLeft32 sum turn, s.b, s.c⟩

/-- The state after a block. -/
def absorb (s : State) (block : Bytes) : State :=
  let t := (List.range 64).foldl (step (words block).toArray) s
  ⟨s.a + t.a, s.b + t.b, s.c + t.c, s.d + t.d⟩

/-- The message closed and cut; unlike the other functions here, MD5 puts
the least significant octet of the length first. -/
def blocks (m : Bytes) : List Bytes :=
  Bytes.chunks 64 (m ++ closing 64 8 m.length ++ Bytes.littleEndian 8 (8 * m.length))

/-- The octets of a word, least significant first. -/
def octets (w : UInt32) : Bytes :=
  (octets32 w).reverse

def digest (m : Bytes) : Bytes :=
  let s := (blocks m).foldl absorb initial
  octets s.a ++ octets s.b ++ octets s.c ++ octets s.d

theorem length_digest (m : Bytes) : (digest m).length = 16 := rfl

end Pkcs12.Hash.Md5

namespace Pkcs12.Hash

def md5 : Hash where
  digestSize := 16
  digest := Md5.digest
  digestSize_pos := by decide
  length_digest := Md5.length_digest

end Pkcs12.Hash

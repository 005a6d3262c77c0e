/-
RC2 with all bits of the key effective.

# Steps

A block is four 16-bit words, least significant octet first. Encryption is a
list of steps; each replaces one word by a function of it and the other three
and turns the four words by one place, so that the same step serves all four
positions and a step is undone knowing only its result. Four steps make a
round, after which every word is back in its place.

# Keys

A key is continued to 128 octets and then gone through once more from the end
to the front. With all of its bits effective, the second pass starts at the
front of the last key length of octets. The words of the expanded key are used
in order by mixing steps, and by the value of a word in mashing steps.
-/
import Pkcs12.Cipher.Block

set_option maxRecDepth 2000

namespace Pkcs12.Rc2

-- ======================================================= key expansion

/-- A permutation of the octets derived from the digits of π. -/
def piTable : Array UInt8 := #[
  0xD9, 0x78, 0xF9, 0xC4, 0x19, 0xDD, 0xB5, 0xED, 0x28, 0xE9, 0xFD, 0x79,
  0x4A, 0xA0, 0xD8, 0x9D, 0xC6, 0x7E, 0x37, 0x83, 0x2B, 0x76, 0x53, 0x8E,
  0x62, 0x4C, 0x64, 0x88, 0x44, 0x8B, 0xFB, 0xA2, 0x17, 0x9A, 0x59, 0xF5,
  0x87, 0xB3, 0x4F, 0x13, 0x61, 0x45, 0x6D, 0x8D, 0x09, 0x81, 0x7D, 0x32,
  0xBD, 0x8F, 0x40, 0xEB, 0x86, 0xB7, 0x7B, 0x0B, 0xF0, 0x95, 0x21, 0x22,
  0x5C, 0x6B, 0x4E, 0x82, 0x54, 0xD6, 0x65, 0x93, 0xCE, 0x60, 0xB2, 0x1C,
  0x73, 0x56, 0xC0, 0x14, 0xA7, 0x8C, 0xF1, 0xDC, 0x12, 0x75, 0xCA, 0x1F,
  0x3B, 0xBE, 0xE4, 0xD1, 0x42, 0x3D, 0xD4, 0x30, 0xA3, 0x3C, 0xB6, 0x26,
  0x6F, 0xBF, 0x0E, 0xDA, 0x46, 0x69, 0x07, 0x57, 0x27, 0xF2, 0x1D, 0x9B,
  0xBC, 0x94, 0x43, 0x03, 0xF8, 0x11, 0xC7, 0xF6, 0x90, 0xEF, 0x3E, 0xE7,
  0x06, 0xC3, 0xD5, 0x2F, 0xC8, 0x66, 0x1E, 0xD7, 0x08, 0xE8, 0xEA, 0xDE,
  0x80, 0x52, 0xEE, 0xF7, 0x84, 0xAA, 0x72, 0xAC, 0x35, 0x4D, 0x6A, 0x2A,
  0x96, 0x1A, 0xD2, 0x71, 0x5A, 0x15, 0x49, 0x74, 0x4B, 0x9F, 0xD0, 0x5E,
  0x04, 0x18, 0xA4, 0xEC, 0xC2, 0xE0, 0x41, 0x6E, 0x0F, 0x51, 0xCB, 0xCC,
  0x24, 0x91, 0xAF, 0x50, 0xA1, 0xF4, 0x70, 0x39, 0x99, 0x7C, 0x3A, 0x85,
  0x23, 0xB8, 0xB4, 0x7A, 0xFC, 0x02, 0x36, 0x5B, 0x25, 0x55, 0x97, 0x31,
  0x2D, 0x5D, 0xFA, 0x98, 0xE3, 0x8A, 0x92, 0xAE, 0x05, 0xDF, 0x29, 0x10,
  0x67, 0x6C, 0xBA, 0xC9, 0xD3, 0x00, 0xE6, 0xCF, 0xE1, 0x9E, 0xA8, 0x2C,
  0x63, 0x16, 0x01, 0x3F, 0x58, 0xE2, 0x89, 0xA9, 0x0D, 0x38, 0x34, 0x1B,
  0xAB, 0x33, 0xFF, 0xB0, 0xBB, 0x48, 0x0C, 0x5F, 0xB9, 0xB1, 0xCD, 0x2E,
  0xC5, 0xF3, 0xDB, 0x47, 0xE5, 0xA5, 0x9C, 0x77, 0x0A, 0xA6, 0x20, 0x68,
  0xFE, 0x7F, 0xC1, 0xAD]

/-- An octet through the permutation. -/
def pi (b : UInt8) : UInt8 := piTable.getD b.toNat 0

/-- The key continued to 128 octets, each further one made from the last
octet and the one a key length back. -/
def lengthen (key : Bytes) : Array UInt8 :=
  (List.range (128 - key.length)).foldl
    (fun l _ => l.push (pi (l.getD (l.size - 1) 0 + l.getD (l.size - key.length) 0)))
    key.toArray

/-- The second pass, from the end of the lengthened key to its front: the
last key length of octets is kept but for its first, and every octet before
is made from the next one and the one a key length on. -/
def tighten (size : Nat) (l : Array UInt8) : Array UInt8 :=
  let start := 128 - size
  let l := l.setIfInBounds start (pi (l.getD start 0))
  (List.range start).foldr
    (fun i l => l.setIfInBounds i (pi (l.getD (i + 1) 0 ^^^ l.getD (i + size) 0))) l

/-- The sixty-four words of the expanded key. -/
def expand (key : Bytes) : Vector UInt16 64 :=
  let l := tighten key.length (lengthen key)
  Vector.ofFn fun i =>
    (l.getD (2 * i.val) 0).toUInt16 ||| (l.getD (2 * i.val + 1) 0).toUInt16 <<< 8

-- ================================================================ steps

/-- The four words of a block, the one to be replaced first. -/
structure Words where
  a : UInt16
  b : UInt16
  c : UInt16
  d : UInt16

/-- One replacement of a word. -/
inductive Step where
  /-- Adds a word of the key and a choice between two other words by the
  bits of the third, then turns. -/
  | mix (key : UInt16) (turn : UInt16)
  /-- Adds a word of the key chosen by another word. -/
  | mash

/-- The word of the expanded key that a mash step adds. -/
def chosen (k : Vector UInt16 64) (d : UInt16) : UInt16 :=
  k.get ⟨d.toNat % 64, Nat.mod_lt _ (by decide)⟩

def turnLeft (x turn : UInt16) : UInt16 := x <<< turn ||| x >>> (16 - turn)

def turnRight (x turn : UInt16) : UInt16 := x >>> turn ||| x <<< (16 - turn)

/-- A step of encryption. -/
def Step.forward (k : Vector UInt16 64) (w : Words) : Step → Words
  | .mix key turn =>
    ⟨w.b, w.c, w.d, turnLeft (w.a + key + ((w.d &&& w.c) + (~~~w.d &&& w.b))) turn⟩
  | .mash => ⟨w.b, w.c, w.d, w.a + chosen k w.d⟩

/-- The inverse of a step: the word that was replaced stands last in the result,
and what was added to it depends on the other three alone. -/
def Step.backward (k : Vector UInt16 64) (w : Words) : Step → Words
  | .mix key turn =>
    ⟨turnRight w.d turn - ((w.c &&& w.b) + (~~~w.c &&& w.a)) - key, w.a, w.b, w.c⟩
  | .mash => ⟨w.d - chosen k w.c, w.a, w.b, w.c⟩

/-- A mixing round takes the next four words of the key and turns by 1, 2,
3 and 5. -/
def mixingRound (k : Vector UInt16 64) (i : Fin 16) : List Step :=
  [.mix k[4 * i.val] 1, .mix k[4 * i.val + 1] 2, .mix k[4 * i.val + 2] 3, .mix k[4 * i.val + 3] 5]

def mashingRound : List Step := [.mash, .mash, .mash, .mash]

/-- Sixteen mixing rounds, with a mashing round after the fifth and after
the eleventh. -/
def schedule (k : Vector UInt16 64) : List Step :=
  (List.finRange 16).flatMap fun i =>
    mixingRound k i ++ (if i = 4 ∨ i = 10 then mashingRound else [])

-- =============================================================== blocks

/-- The words of eight octets; other strings count as zero. -/
def ofBytes : Bytes → Words
  | [a, b, c, d, e, f, g, h] => ⟨word a b, word c d, word e f, word g h⟩
  | _ => ⟨0, 0, 0, 0⟩
where
  word (low high : UInt8) : UInt16 := low.toUInt16 ||| high.toUInt16 <<< 8

def toBytes (w : Words) : Bytes :=
  [w.a, w.b, w.c, w.d].flatMap fun (x : UInt16) => [x.toUInt8, (x >>> 8).toUInt8]

/-- The key lengths in use: five to 128 octets. -/
def acceptsLength (n : Nat) : Bool :=
  5 ≤ n && n ≤ 128

/-- The cipher under a key. -/
def keyed (key : Bytes) : BlockCipher :=
  let k := expand key
  let steps := schedule k
  { name := "RC2"
    blockSize := 8
    blockSize_pos := BlockCipher.eight_pos
    forward := fun b => toBytes (steps.foldl (Step.forward k) (ofBytes b))
    backward := fun b => toBytes (steps.reverse.foldl (Step.backward k) (ofBytes b)) }

/-- The cipher under a key of admissible length. -/
def new (key : Bytes) : Except Error BlockCipher :=
  if acceptsLength key.length then .ok (keyed key) else .error (.key (.rc2Length key.length))

end Pkcs12.Rc2

/-
The Mersenne Twister MT19937: 624 words of 32 bits, renewed all at once when
they are used up, each tempered on its way out.

A seed of any size fills the words through its own 32-bit words; its sign does
not matter. Two passes go over the words, and each word is changed by a
function of the one before it, so words are kept in an array and a pass is a
fold over the places.

A number up to a bound is drawn by taking as many bits as the range needs and
drawing again while they are out of range. That need not end, so a draw has
fuel; half of all draws succeed at least, and the fuel is for thousands.
-/
import Pkcs12.Bytes
import Pkcs12.Random.Generator

namespace Pkcs12

/-- The words of the generator and how many of them are used up. -/
structure MersenneTwister where
  words : Array UInt32
  used : Nat

namespace MersenneTwister

def size : Nat := 624

-- ============================================================== seeding

/-- What a word passes on to the next one. -/
def passOn (w : UInt32) : UInt32 :=
  w ^^^ w >>> 30

/-- The words that seeding starts from, the same for every seed. -/
def base : Array UInt32 :=
  (List.range (size - 1)).foldl
    (fun w i => w.push (1812433253 * passOn (w.getD i 0) + UInt32.ofNat (i + 1))) #[19650218]

/-- The words of a seed, least significant first; zero has one. -/
def seedWords (seed : Nat) : List UInt32 :=
  if _last : seed < 2 ^ 32 then [UInt32.ofNat seed]
  else UInt32.ofNat seed :: seedWords (seed / 2 ^ 32)
termination_by seed
decreasing_by omega

/-- One pass of seeding. Words change one after the other, each by a
function of the step, its place, the word before it and itself; after the
last word the first one becomes its copy and is passed over. The place
where the pass stops is where the next one starts. -/
def sweep (count : Nat) (change : Nat → Nat → UInt32 → UInt32 → UInt32)
    (begun : Array UInt32 × Nat) : Array UInt32 × Nat :=
  (List.range count).foldl
    (fun (w, i) step =>
      let w := w.setIfInBounds i (change step i (w.getD (i - 1) 0) (w.getD i 0))
      if i + 1 < size then (w, i + 1) else (w.setIfInBounds 0 (w.getD (size - 1) 0), 1))
    begun

/-- The generator for a seed, with all words to be renewed first: one pass
brings in the words of the seed, a second one spreads them. -/
def ofSeed (seed : Int) : MersenneTwister :=
  let key := (seedWords seed.natAbs).toArray
  let bringIn := fun (step _ : Nat) (before word : UInt32) =>
    let j := step % key.size
    (word ^^^ passOn before * 1664525) + key.getD j 0 + UInt32.ofNat j
  let spread := fun (_ i : Nat) (before word : UInt32) =>
    (word ^^^ passOn before * 1566083941) - UInt32.ofNat i
  let seeded := sweep (size - 1) spread (sweep (max size key.size) bringIn (base, 1))
  { words := seeded.1.setIfInBounds 0 0x80000000, used := size }

-- ============================================================== drawing

/-- All words renewed, in their order, so that the later ones see the new
values of the earlier ones. -/
def renew (w : Array UInt32) : Array UInt32 :=
  (List.range size).foldl
    (fun w i =>
      let y := (w.getD i 0 &&& 0x80000000) ||| (w.getD ((i + 1) % size) 0 &&& 0x7FFFFFFF)
      let twist : UInt32 := if y &&& 1 = 1 then 0x9908B0DF else 0
      w.setIfInBounds i (w.getD ((i + 397) % size) 0 ^^^ y >>> 1 ^^^ twist)) w

/-- A word on its way out. -/
def temper (y : UInt32) : UInt32 :=
  let y := y ^^^ y >>> 11
  let y := y ^^^ (y <<< 7 &&& 0x9D2C5680)
  let y := y ^^^ (y <<< 15 &&& 0xEFC60000)
  y ^^^ y >>> 18

/-- The next 32 random bits. -/
def next (m : MersenneTwister) : UInt32 × MersenneTwister :=
  let m := if m.used < size then m else { words := renew m.words, used := 0 }
  (temper (m.words.getD m.used 0), { m with used := m.used + 1 })

/-- How often a number above the bound is drawn again. Each trial fails
with probability one half at most, so the end of this fuel is never seen. -/
def maxTrials : Nat := 4096

/-- Draws as many bits as the size of the range has, again and again until
the number they form lies in the range. -/
def upTo (bound : Nat) : Nat → MersenneTwister → Fin (bound + 1) × MersenneTwister
  | 0, m => (0, m)
  | trials + 1, m =>
    let bits := (bound + 1).log2 + 1
    let (word, m) := m.next
    let n := word.toNat >>> (32 - bits)
    if h : n < bound + 1 then (⟨n, h⟩, m) else upTo bound trials m

def generator : Generator MersenneTwister where
  upTo bound m := upTo bound maxTrials m

end MersenneTwister

end Pkcs12

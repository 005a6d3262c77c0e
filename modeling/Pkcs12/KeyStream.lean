/-
The key derivation of PKCS#12: a stream of octets from a salt and a password.

# The stream

A diversifier chooses one of three independent streams. Salt and password,
each repeated to whole hash blocks, form the working string `I`; each output
block is the iterated hash of diversifier and `I`, and between two output
blocks every hash block of `I` is increased by the one before, without carry
from block to block.

The stream is computed on demand: what is still wanted bounds the recursion of
`stream`, and the last output block is not followed by an update of `I`. So a
longer request and a shorter one part only after the shorter one has its
octets. The hash function is a parameter, and all that is asked of it is that
its digests have a fixed positive size, without which the recursion would not
end.

# Requests

`derive` takes a purpose and natural numbers, for which it is total. A caller
may put other values, and `Request` is what it may put: a purpose by its
number, a hash function by its name, sizes and counts of either sign.
`Request.answer` examines them one after the other and then calls `derive`.
Sizes of hash blocks have limits of their own, since a power of 256 with so
many octets is computed: it has to exist as a number at all, and to fit into
memory.
-/
import Pkcs12.Error
import Pkcs12.Hash.Named

namespace Pkcs12

/-- What a derived string is for. -/
inductive Purpose where
  | key
  | iv
  | integrity
deriving DecidableEq, Repr

namespace Purpose

/-- The diversifier octet, which is also the number that a caller gives. -/
def octet : Purpose → UInt8
  | .key => 1
  | .iv => 2
  | .integrity => 3

/-- The purpose with a given number. -/
def ofInt? (n : Int) : Option Purpose :=
  if n = 1 then some .key else if n = 2 then some .iv else if n = 3 then some .integrity else none

end Purpose

namespace KeyStream

-- =========================================================== filling

/-- The least multiple of `v` that is not below `length`. -/
def roundUp (v length : Nat) : Nat :=
  v * ((length + v - 1) / v)

/-- A string repeated from its start until the length is a multiple of `v`.
The empty string stays empty. -/
def fill (v : Nat) (data : Bytes) : Bytes :=
  let n := roundUp v data.length
  (List.replicate (n / data.length + 1) data).flatten.take n

-- ========================================================== updating

/-- Adds an output block, repeated to whole hash blocks, and one to every
`v`-octet block of the working string, modulo `256 ^ v`. -/
def advance (v : Nat) (a i : Bytes) : Bytes :=
  let b := fill v a
  -- no carry passes from one block to the next
  (Bytes.chunks v i).flatMap fun block => Bytes.addSucc block b

-- ========================================================== the stream

/-- The first `want` octets of the stream with diversifier `d` and working
string `i`, the hash being iterated `extra` times beyond the first. -/
def stream (h : Hash) (v extra : Nat) (d : Bytes) (want : Nat) (i : Bytes) : Bytes :=
  if _done : want = 0 then []
  else
    let a := h.iterate (extra + 1) (d ++ i)
    if want ≤ h.digestSize then a.take want
    else a ++ stream h v extra d (want - h.digestSize) (advance v a i)
termination_by want
decreasing_by
  have := h.digestSize_pos
  omega

/-- The diversifier: `v` copies of the purpose octet. -/
def diversifier (v : Nat) (purpose : Purpose) : Bytes :=
  List.replicate v purpose.octet

/-- The working string that a stream starts with. -/
def initial (v : Nat) (salt password : Bytes) : Bytes :=
  fill v salt ++ fill v password

/-- The first string to be hashed. -/
def firstInput (v : Nat) (purpose : Purpose) (salt password : Bytes) : Bytes :=
  diversifier v purpose ++ initial v salt password

/-- The derived string of a given length. One of the iterations is the first hash,
so there has to be at least one. -/
def derive (h : Hash) (v : Nat) (salt password : Bytes) (iterations : Nat) (purpose : Purpose)
    (length : Nat) : Bytes :=
  stream h v (iterations - 1) (diversifier v purpose) length (initial v salt password)

-- ====================================================== checked request

/-- A request for a derived string, with the values that a caller may put. -/
structure Request where
  hash : Text
  blockSize : Int
  digestSize : Int
  salt : Bytes
  password : Bytes
  iterations : Int
  purpose : Int
  length : Int

/-- Whether hash blocks of no size leave something undone: octets to fill them
with, or an update between two output blocks. If not, nothing shows that they
have no size. -/
def Request.needsBlocks (r : Request) (h : Hash) : Bool :=
  !r.salt.isEmpty || !r.password.isEmpty || (h.digestSize : Int) < r.length

/-- The most octets that the number of a hash block may have. -/
def widestBlock : Int := 8646911284551352290

/-- The hash function of a request, and its name. A name is not even looked
up when it has a null character or a surrogate. -/
def Request.function (r : Request) : Except Error (String × Hash) :=
  match r.hash.toString? with
  | none => .error (.misuse .hashName)
  | some name =>
    if name.toList.contains '\x00' then .error (.misuse .hashName)
    else
      match Hash.ofName? name with
      | none => .error (.misuse .unknownHash)
      | some h => .ok (name, h)

/-- What is wrong with the size of the hash blocks, if anything is, with so much
memory to put them in. -/
def Request.blockFault (memory : Memory) (r : Request) (h : Hash) : Option Misuse :=
  if r.blockSize < 0 then some .negativeHashBlock
  -- a power of 256 is computed before a block is filled
  else if widestBlock < r.blockSize then some .wideHashBlock
  else if memory.octets < r.blockSize then some .largeHashBlock
  else if r.blockSize = 0 ∧ r.needsBlocks h then some .emptyHashBlock
  else none

/-- Answers a request, or says what is wrong with it: purpose, count,
length, hash function and block size are examined in this order. -/
def Request.answer (memory : Memory) (r : Request) : Except Error Bytes :=
  match Purpose.ofInt? r.purpose with
  | none => .error (.misuse (.unknownPurpose r.purpose))
  | some purpose =>
    if r.iterations < 1 then .error (.format .noIterations)
    else if r.length < 0 then .error (.misuse .negativeLength)
    else
      match r.function with
      | .error e => .error e
      | .ok (name, h) =>
        if (h.digestSize : Int) ≠ r.digestSize then
          .error (.misuse (.digestSize name h.digestSize r.digestSize))
        else
          match r.blockFault memory h with
          | some fault => .error (.misuse fault)
          | none =>
            -- the rest of the request has been examined even so
            if r.length = 0 then .ok []
            else
              .ok (derive h r.blockSize.toNat r.salt r.password r.iterations.toNat purpose
                r.length.toNat)

end KeyStream

end Pkcs12

/-
Cipher block chaining. A chain carries one block from call to call: the
initial vector at first, then the last ciphertext block seen. Input is
taken in chunks of whole blocks; a chunk that is none is refused and leaves
the chain as it was, so a chain may be fed in any division of its input.

# What is checked

The initial vector is checked once, when the chain is started, and each
chunk when it comes. Within a chunk the loop relies on nothing of that: the
exclusive or demands two strings of one length and the cipher demands a
block, for every block anew. Under a permutation none of these demands is
ever missed, since the block that is held stays a block; then the loop
comes to the two recursions that `Proofs.Cipher.Chaining` names and proves
inverse to one another.
-/
import Pkcs12.Cipher.Block

namespace Pkcs12

/-- The exclusive or of two octet strings of one length. -/
def xorEqual (a b : Bytes) : Except Error Bytes :=
  if a.length = b.length then .ok (Bytes.xor a b) else .error (.misuse .xorLengths)

inductive Direction where
  | encrypt
  | decrypt
deriving DecidableEq, Repr

namespace Chaining

/-- Blocks encrypted in turn, each after the exclusive or with the
ciphertext block before it: the ciphertext blocks. -/
def encryptChecked (c : BlockCipher) (previous : Bytes) : List Bytes → Except Error (List Bytes)
  | [] => .ok []
  | block :: rest => do
    let out ← c.encryptBlock (← xorEqual block previous)
    let others ← encryptChecked c out rest
    return out :: others

/-- Blocks decrypted in turn, each followed by the exclusive or with the
ciphertext block before it: the plaintext blocks. -/
def decryptChecked (c : BlockCipher) (previous : Bytes) : List Bytes → Except Error (List Bytes)
  | [] => .ok []
  | block :: rest => do
    let out ← xorEqual (← c.decryptBlock block) previous
    let others ← decryptChecked c block rest
    return out :: others

end Chaining

/-- A chain in one direction under a keyed cipher, holding the block that
the next one is chained to. -/
structure Chain where
  direction : Direction
  cipher : BlockCipher
  previous : Bytes

namespace Chain

/-- A fresh chain; the initial vector has to be a block. -/
def start (direction : Direction) (cipher : BlockCipher) (iv : Bytes) : Except Error Chain :=
  if iv.length = cipher.blockSize then .ok ⟨direction, cipher, iv⟩
  else .error (.misuse (.initialVector cipher.blockSize))

/-- The output blocks for input blocks. -/
def cryptBlocks (c : Chain) (blocks : List Bytes) : Except Error (List Bytes) :=
  match c.direction with
  | .encrypt => Chaining.encryptChecked c.cipher c.previous blocks
  | .decrypt => Chaining.decryptChecked c.cipher c.previous blocks

/-- The block held after input and output blocks: the last ciphertext
block, which is the output of encryption and the input of decryption. -/
def heldAfter (c : Chain) (inputs outputs : List Bytes) : Bytes :=
  match c.direction with
  | .encrypt => outputs.getLastD c.previous
  | .decrypt => inputs.getLastD c.previous

/-- A chunk of whole blocks through the chain: its output, and the chain
afterwards. -/
def crypt (c : Chain) (chunk : Bytes) : Except Error (Bytes × Chain) :=
  if chunk.length % c.cipher.blockSize = 0 then do
    let blocks := Bytes.chunks c.cipher.blockSize chunk
    let out ← c.cryptBlocks blocks
    return (out.flatten, { c with previous := c.heldAfter blocks out })
  else .error (.misuse (.partialChunk c.cipher.blockSize))

/-- One call on a chain: what it answers, and the chain afterwards, which
a refusal leaves alone. -/
def step (c : Chain) (chunk : Bytes) : Except Error Bytes × Chain :=
  match c.crypt chunk with
  | .ok (out, next) => (.ok out, next)
  | .error e => (.error e, c)

/-- The answers to a series of calls, each with the block held after it. -/
def feed (c : Chain) : List Bytes → List (Except Error Bytes × Bytes)
  | [] => []
  | chunk :: rest =>
    let (answer, next) := c.step chunk
    (answer, next.previous) :: next.feed rest

end Chain

end Pkcs12

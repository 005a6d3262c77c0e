/-
One random trial of the self-checks: a salt, a password and a plaintext.

A length is drawn before what it counts, and the salt before the password and
the plaintext; so a seed has the same trials whenever it is used. Passwords
are of letters, digits and punctuation, up to sixteen of them; plaintexts are
shorter than four blocks, so every position of the end within a block occurs.

The generator is a parameter, and nothing is assumed of its draws: what is
proved of a run of the self-checks holds for every sequence of them.
-/
import Pkcs12.Encryption
import Pkcs12.Random.Generator

namespace Pkcs12.SelfCheck

structure Trial where
  salt : Bytes
  password : Bytes
  plaintext : Bytes
deriving DecidableEq, Repr

/-- The characters from one to another. -/
def characters (first last : Char) : List Char :=
  (List.range' first.toNat (last.toNat + 1 - first.toNat)).map Char.ofNat

/-- The characters of random passwords: small letters, capital letters,
digits, punctuation. -/
def alphabet : List Char :=
  characters 'a' 'z' ++ characters 'A' 'Z' ++ characters '0' '9'
    ++ (characters '!' '/' ++ characters ':' '@' ++ characters '[' '\x60'
      ++ characters '\x7b' '~')

/-- The octets of a password in these characters. -/
def passwordOctets (cs : List Char) : Bytes :=
  Password.octets (cs.map CodePoint.ofChar)

variable {σ : Type}

/-- A random password. A place in the alphabet is drawn for each character. -/
def drawPassword (g : Generator σ) : Draw σ Bytes := do
  let count ← g.draw 16
  let places ← Generator.times (g.draw (alphabet.length - 1)) count.val
  return passwordOctets (places.map fun i => alphabet.getD i.val ' ')

/-- A random trial for a scheme. -/
def drawTrial (g : Generator σ) (scheme : Scheme) : Draw σ Trial := do
  let salt ← g.octets 8
  let password ← drawPassword g
  let length ← g.draw (4 * scheme.blockSize - 1)
  let plaintext ← g.octets length.val
  return { salt, password, plaintext }

/-- What the self-checks consult: where settings come from, the generator
and its state for a seed, and the memory that there is for outcomes. -/
structure Setup (σ : Type) where
  settings : Settings.Source
  generator : Generator σ
  start : Int → σ
  memory : Memory

/-- The identifier for a trial. It has a salt, so no random octets are drawn. -/
def Setup.identifier (setup : Setup σ) (scheme : Scheme) (iterations : Int) (t : Trial) :
    Except Error Identifier :=
  Identifier.forEncryption setup.settings (fun _ => []) scheme.name (some t.salt) (some iterations)

end Pkcs12.SelfCheck

/-
The tamper check: one bit of a ciphertext is changed, and the result is
decrypted with the right password.

# Outcomes

Decryption has to refuse a changed ciphertext or to yield another plaintext.
That the encrypted plaintext comes back is the silent acceptance that the
check looks for (`judge`). Only a failed decryption counts as a refusal; any
other error, here as in the making of the ciphertext, ends the run.

# Runs

The outcomes of all trials have a place each before the first trial is drawn,
so a number of trials is refused that is negative, or that there is no place
for (`trialsFault`). With that settled a run is a list of outcomes, and the
report counts them. The bit to change is drawn after the ciphertext is there,
for its range depends on it.
-/
import Pkcs12.Content
import Pkcs12.SelfCheck.RoundTrip

namespace Pkcs12.SelfCheck

-- ============================================================== reports

/-- What became of a changed ciphertext. -/
inductive TamperOutcome where
  | rejected
  | altered
  | silent
deriving DecidableEq, Repr

/-- What a run for one scheme found. -/
structure TamperReport where
  family : String
  total : Int
  rejected : Int
  altered : Int
  silent : Int
  rejectionRate : Binary64 := Binary64.zero false
  elapsed : Binary64 := Binary64.zero false
  seed : Int := 1337
deriving DecidableEq, Repr

namespace TamperReport

def isPerfect (r : TamperReport) : Bool :=
  r.silent == 0

def toJson (r : TamperReport) : Json :=
  .record [
    ("family", .str r.family),
    ("total_vectors", .int r.total),
    ("rejected", .int r.rejected),
    ("altered", .int r.altered),
    ("silent", .int r.silent),
    ("rejection_rate", .number r.rejectionRate),
    ("elapsed_seconds", .number r.elapsed),
    ("seed", .int r.seed)]

def summary (r : TamperReport) : String :=
  let status := verdict r.isPerfect
  let counts := s!"rejected={r.rejected}, altered={r.altered}, silent={r.silent}"
  let share := r.rejectionRate.fixedText 3
  s!"[{status}] tamper {r.family}: {counts} (rejection rate {share})"

end TamperReport

-- =============================================================== trials

/-- Decrypts a changed ciphertext. Only a failed decryption counts as a
rejection; any other error is one of the run. -/
def judge (settings : Settings.Source) (a : Identifier) (t : Trial) (tampered : Bytes) :
    Except Error TamperOutcome :=
  match decrypt settings a t.password tampered with
  -- the padding may fit again by chance, with another text in front of it
  | .ok recovered => .ok (if recovered = t.plaintext then .silent else .altered)
  | .error .decryption => .ok .rejected
  | .error e => .error e

variable {σ : Type}

/-- One trial, and the generator's state after it. -/
def tamperTrial (setup : Setup σ) (scheme : Scheme) (iterations : Int) (state : σ) :
    Except Error (TamperOutcome × σ) := do
  let (t, state) := drawTrial setup.generator scheme state
  let a ← setup.identifier scheme iterations t
  let ciphertext ← encrypt setup.settings a t.password t.plaintext
  -- a ciphertext is never empty, so there is a bit to change
  let (bit, state) := setup.generator.upTo (8 * ciphertext.length - 1) state
  let tampered ← Bytes.flipBit ciphertext bit.val
  let outcome ← judge setup.settings a t tampered
  return (outcome, state)

def tamperTrials (setup : Setup σ) (scheme : Scheme) (iterations : Int) :
    Nat → σ → Except Error (List TamperOutcome)
  | 0, _ => .ok []
  | trials + 1, state => do
    let (outcome, state) ← tamperTrial setup scheme iterations state
    let rest ← tamperTrials setup scheme iterations trials state
    return outcome :: rest

-- ================================================================= runs

/-- Whether there is something wrong with a number of trials: there has to
be a place in memory for the outcome of each. -/
def trialsFault (memory : Memory) (trials : Int) : Option Misuse :=
  if !fitsWord trials then some .wideVectors
  else if trials < 0 then some .negativeVectors
  else if memory.octets < trials then some (.largeVectors trials.toNat)
  else none

/-- The run for one scheme. The number of trials may not be negative. -/
def runTamper (setup : Setup σ) (family : String) (trials seed iterations : Int) :
    Logged TamperReport := do
  let scheme ← Scheme.byName family
  if let some fault := trialsFault setup.memory trials then throw (.misuse fault)
  let outcomes ← tamperTrials setup scheme iterations trials.toNat (setup.start seed)
  let silent := outcomes.count .silent
  if silent ≠ 0 then
    Pkcs12.report .warning s!"Tampering went unnoticed for {scheme.name} on {silent} vectors"
  let rejected := outcomes.count .rejected
  let share ← if trials = 0 then pure (Binary64.zero false) else rate rejected trials
  return {
    family := scheme.name
    total := trials
    rejected := rejected
    altered := outcomes.count .altered
    silent := silent
    rejectionRate := share
    seed := seed }

end Pkcs12.SelfCheck

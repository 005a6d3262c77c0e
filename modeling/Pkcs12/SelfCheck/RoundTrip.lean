/-
The round-trip check: random trials are encrypted and decrypted again under
the same identifier and password.

# Trials

A trial passes when the plaintext comes back and the ciphertext is longer and
of whole blocks; otherwise it counts as failed, whatever went wrong
(`attempt`). An error of encryption or decryption is thus part of the outcome,
and the run goes on. Making the identifier is no matter of a trial, and an
error there ends the run.

# Reports

A run counts what passed and what failed, and keeps the first failures in
detail, up to a limit (`Tally.add`). The report has octets in hexadecimal and
the share of trials that passed as a binary64 number, which is the one thing
about it that may not exist: a quotient may be beyond their range, though not
one of two counts of which the second is the larger. The time that a run takes
is not modelled, and stands in a report as zero.
-/
import Pkcs12.Json.Value
import Pkcs12.Log
import Pkcs12.Number.Layout
import Pkcs12.SelfCheck.Trial

namespace Pkcs12.SelfCheck

-- ============================================================== reports

/-- A failed trial in detail. Octets are in hexadecimal; those that do not
exist, or are none, appear as a remark. -/
structure Failure where
  index : Int
  plaintext : String
  salt : String
  ciphertext : String
  decrypted : String
  error : Option String
deriving DecidableEq, Repr

/-- What a run for one scheme found. -/
structure RoundTripReport where
  family : String
  identifier : String
  blockSize : Int
  /-- The iteration count, unless the run was asked for without one. -/
  iterations : Option Int
  total : Int
  passed : Int
  failed : Int
  failures : List Failure := []
  elapsed : Binary64 := Binary64.zero false
  seed : Int := 1337
deriving DecidableEq, Repr

/-- The quotient of two integers, of which the second is positive, unless no finite
number is near enough. -/
def rate (num den : Int) : Except Error Binary64 :=
  match Binary64.ofRatio? (num < 0) num.natAbs den.natAbs with
  | some x => .ok x
  | none => .error (.misuse .rateOverflow)

def verdict (perfect : Bool) : String :=
  if perfect then "PASS" else "FAIL"

namespace RoundTripReport

/-- The share of trials that passed, zero when there were none. -/
def successRate (r : RoundTripReport) : Except Error Binary64 :=
  if 0 < r.total then rate r.passed r.total else .ok (Binary64.zero false)

/-- Whether no trial failed. -/
def isPerfect (r : RoundTripReport) : Bool :=
  r.failed == 0

end RoundTripReport

def Failure.toJson (f : Failure) : Json :=
  .record [
    ("vector_index", .int f.index),
    ("plaintext_hex", .str f.plaintext),
    ("salt_hex", .str f.salt),
    ("ciphertext_hex", .str f.ciphertext),
    ("decrypted_hex", .str f.decrypted),
    ("error", (f.error.map Json.str).getD .null)]

def RoundTripReport.toJson (r : RoundTripReport) : Except Error Json := do
  let successRate ← r.successRate
  return .record [
    ("family", .str r.family),
    ("oid", .str r.identifier),
    ("block_size", .int r.blockSize),
    ("iterations", (r.iterations.map Json.int).getD (.list [])),
    ("total_vectors", .int r.total),
    ("passed", .int r.passed),
    ("failed", .int r.failed),
    ("failures", .list (r.failures.map Failure.toJson)),
    ("elapsed_seconds", .number r.elapsed),
    ("seed", .int r.seed),
    ("success_rate", .number successRate)]

def RoundTripReport.summary (r : RoundTripReport) : String :=
  let status := verdict r.isPerfect
  let elapsed := r.elapsed.fixedText 2
  s!"[{status}] roundtrip {r.family}: {r.passed}/{r.total} vectors passed ({elapsed}s)"

-- =============================================================== trials

/-- What a trial came to. Octets that it did not get to are empty. -/
structure Outcome where
  ciphertext : Bytes
  decrypted : Bytes
  passed : Bool
  error : Option Error
deriving DecidableEq, Repr

/-- A trial carried out. -/
def attempt (settings : Settings.Source) (scheme : Scheme) (a : Identifier) (t : Trial) : Outcome :=
  match encrypt settings a t.password t.plaintext with
  | .error e => ⟨[], [], false, some e⟩
  | .ok ciphertext =>
    match decrypt settings a t.password ciphertext with
    | .error e => ⟨ciphertext, [], false, some e⟩
    | .ok decrypted =>
      -- padding always adds something, and fills up the last block
      let passed := decrypted == t.plaintext && t.plaintext.length < ciphertext.length
        && ciphertext.length % scheme.blockSize == 0
      ⟨ciphertext, decrypted, passed, none⟩

/-- Octets as a failure shows them. -/
def shown (octets : Bytes) : String :=
  if octets.isEmpty then "<error>" else octets.toHex

/-- The details of a failed trial. -/
def Outcome.failure (o : Outcome) (index : Nat) (t : Trial) : Failure where
  index := index
  plaintext := t.plaintext.toHex
  salt := t.salt.toHex
  ciphertext := shown o.ciphertext
  decrypted := shown o.decrypted
  error := o.error.map fun e => s!"{e.label}: {e.message}"

-- ================================================================= runs

/-- The count of a run so far. -/
structure Tally where
  passed : Nat := 0
  failed : Nat := 0
  failures : List Failure := []

/-- Counts a trial; of failures, only `limit` are kept in detail. -/
def Tally.add (limit : Int) (index : Nat) (t : Trial) (o : Outcome) (count : Tally) : Tally :=
  if o.passed then { count with passed := count.passed + 1 }
  else
    { count with
      failed := count.failed + 1
      failures :=
        if (count.failures.length : Int) < limit then count.failures ++ [o.failure index t]
        else count.failures }

variable {σ : Type}

/-- A number of further trials, the first of them with the given index. -/
def roundTrips (setup : Setup σ) (scheme : Scheme) (iterations limit : Int) :
    (trials index : Nat) → σ → Tally → Except Error Tally
  | 0, _, _, count => .ok count
  | trials + 1, index, state, count =>
    let (t, state) := drawTrial setup.generator scheme state
    match setup.identifier scheme iterations t with
    -- no matter of this trial
    | .error e => .error e
    | .ok a =>
      let outcome := attempt setup.settings scheme a t
      roundTrips setup scheme iterations limit trials (index + 1) state
        (count.add limit index t outcome)

/-- The run for one scheme. A negative number of trials is as good as
none. -/
def runRoundTrip (setup : Setup σ) (family : String) (trials seed iterations limit : Int) :
    Logged RoundTripReport := do
  let scheme ← Scheme.byName family
  let count ← roundTrips setup scheme iterations limit trials.toNat 0 (setup.start seed) {}
  if count.failed ≠ 0 then
    Pkcs12.report .warning
      s!"Roundtrip for {scheme.name} failed on {count.failed}/{trials} vectors"
  return {
    family := scheme.name
    identifier := scheme.identifier
    blockSize := scheme.blockSize
    iterations := some iterations
    total := trials
    passed := count.passed
    failed := count.failed
    failures := count.failures
    seed := seed }

end Pkcs12.SelfCheck

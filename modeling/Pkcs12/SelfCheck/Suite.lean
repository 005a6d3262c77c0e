/-
Both checks for every scheme, in the order of the schemes' names.

For each scheme the round trips come first and the tamper check after them,
both from the same seed, so their trials agree until the tamper check draws a
bit. An error ends the suite, and the log then has what was announced and
found before it. Round trips keep the details of ten failures at most.

A suite that was asked for without a count runs as with a count of zero, and
`withoutCount` is what its reports say then.
-/
import Pkcs12.SelfCheck.Tamper

namespace Pkcs12.SelfCheck

/-- The reports of both checks for every scheme. -/
structure Suite where
  roundTrips : List RoundTripReport := []
  tampers : List TamperReport := []
deriving DecidableEq, Repr

namespace Suite

variable {σ : Type}

/-- How many failures of a round-trip run are kept in detail. -/
def failureLimit : Int := 10

def announce (trials : Int) (scheme : Scheme) : Logged Unit :=
  Pkcs12.report .info s!"Evaluating {scheme.name} ({trials} vectors)"

/-- The checks for some schemes. -/
def runSchemes (setup : Setup σ) (trials seed iterations : Int) : List Scheme → Logged Suite
  | [] => return {}
  | scheme :: rest => do
    announce trials scheme
    let roundTrip ← runRoundTrip setup scheme.name trials seed iterations failureLimit
    let tamper ← runTamper setup scheme.name trials seed iterations
    let others ← runSchemes setup trials seed iterations rest
    return ⟨roundTrip :: others.roundTrips, tamper :: others.tampers⟩

def run (setup : Setup σ) (trials seed iterations : Int) : Logged Suite :=
  runSchemes setup trials seed iterations Scheme.all

/-- The reports as they are when no iteration count was given. -/
def withoutCount (s : Suite) : Suite :=
  { s with roundTrips := s.roundTrips.map fun r => { r with iterations := none } }

/-- What is announced while the suite runs: before each scheme its name, its
index and how many schemes there are. -/
def progress : List (String × Nat × Nat) :=
  Scheme.all.zipIdx.map fun (scheme, i) => (scheme.name, i, Scheme.all.length)

/-- Whether neither check found anything. -/
def isPerfect (s : Suite) : Bool :=
  s.roundTrips.all (·.isPerfect) && s.tampers.all (·.isPerfect)

def document (s : Suite) : Except Error Json := do
  let roundTrips ← s.roundTrips.mapM (·.toJson)
  return .record [
    ("roundtrip", .list roundTrips),
    ("tamper", .list (s.tampers.map (·.toJson))),
    ("ok", .bool s.isPerfect)]

def summaries (s : Suite) : List String :=
  s.roundTrips.map (·.summary) ++ s.tampers.map (·.summary)

end Suite

end Pkcs12.SelfCheck

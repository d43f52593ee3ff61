import ClusterClient.Number.Binary64

namespace ClusterClient.Latency

open ClusterClient.Number (Binary64 divideEven)

def nanosPerSecond : Nat := 1000000000

def seconds? (nanos : Nat) : Option Binary64 := do
  let whole ← Binary64.ofNat? (nanos / nanosPerSecond)
  let rest ← Binary64.ofNat? (nanos % nanosPerSecond)
  whole.add? (← rest.div? (← Binary64.ofNat? nanosPerSecond))

def scale (factor : Binary64) (nanos : Nat) : Nat :=
  match (do factor.mul? (← seconds? nanos) : Option Binary64) with
  | some x => divideEven (x.units * nanosPerSecond) Binary64.unitsPerOne
  | none => 0

def newWeight : Binary64 := (Binary64.round 3 10).getD .zero
def oldWeight : Binary64 := (Binary64.round 7 10).getD .zero

def average (before : Option Nat) (latest : Nat) : Nat :=
  match before with
  | none => latest
  | some previous => scale oldWeight previous + scale newWeight latest

end ClusterClient.Latency

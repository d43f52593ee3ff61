import ClusterClient.Number.Binary64

/-!
The shortest decimal of a binary64 number: the fewest significant digits that read back as the
number, and of those the decimal nearest to it. A decimal reads back if it lies among the reals
that round to the number; it is searched for on one decimal grid after the other, from coarse to
fine, among the two grid points around the number.
-/

namespace ClusterClient.Number

/-- Decimal digits, the most significant first, with the position of the point: the value is
`0.d₁d₂… · 10^point`. -/
structure Decimal where
  digits : List Nat
  point : Int
deriving DecidableEq, Repr, Inhabited

namespace Shortest

def digitsOf (n : Nat) : List Nat := (Nat.toDigits 10 n).map fun c => c.toNat - 48

/-- The reals that round to a positive number, in quarters of the distance to the next number
above, and whether the two ends belong to them. -/
structure Interval where
  low : Nat
  middle : Nat
  high : Nat
  closed : Bool

def interval (x : Binary64) : Interval :=
  let middle := 4 * x.significand
  let below := if x.significand = 1 <<< 52 ∧ 0 < x.exponent then 1 else 2
  ⟨middle - below, middle, middle + 2, x.significand % 2 = 0⟩

def quarter (x : Binary64) : Nat × Nat := (1 <<< x.exponent, 4 * Binary64.unitsPerOne)

def gridStep (k : Int) : Nat × Nat :=
  if 0 ≤ k then (Nat.pow 10 k.toNat, 1) else (1, Nat.pow 10 (-k).toNat)

def readsBack (x : Binary64) (k : Int) (n : Nat) : Bool :=
  let area := interval x
  let step := gridStep k
  let unit := quarter x
  let here := n * step.1 * unit.2
  let scale := unit.1 * step.2
  if area.closed then area.low * scale ≤ here && here ≤ area.high * scale
  else area.low * scale < here && here < area.high * scale

/-- How many steps of the grid `10^k` lie below the number, rounded down, and twice what is left
over compared with one step. -/
def floorOnGrid (x : Binary64) (k : Int) : Nat × Ordering :=
  let step := gridStep k
  let num := x.units * step.2
  let den := Binary64.unitsPerOne * step.1
  (num / den, compare (2 * (num % den)) den)

def onGrid (x : Binary64) (k : Int) : Option Nat :=
  let (below, rest) := floorOnGrid x k
  let above := below + 1
  match readsBack x k below && 0 < below, readsBack x k above with
  | true, true =>
    match rest with
    | .lt => some below
    | .gt => some above
    | .eq => some (if below % 2 = 0 then below else above)
  | true, false => some below
  | false, true => some above
  | false, false => none

/-- The number of digits before the point of a positive number, negative when zeros follow the
point: an estimate from the binary size, corrected upwards once at most. -/
def pointOf (x : Binary64) : Int :=
  let size : Int := Nat.log2 x.units - 1074
  let guess := size * 30103 / 100000
  let reaches (k : Int) : Bool := 1 ≤ (floorOnGrid x k).1
  if reaches guess then (if reaches (guess + 1) then guess + 2 else guess + 1) else guess

end Shortest

def Binary64.shortest (x : Binary64) : Decimal :=
  let point := Shortest.pointOf x
  let hit := (List.range 17).findSome? fun (n : Nat) =>
    let k : Int := point - (n + 1)
    (Shortest.onGrid x k).map fun steps => (steps, k)
  match hit with
  | none => ⟨[], 0⟩
  | some (steps, k) =>
    let digits := Shortest.digitsOf steps
    ⟨(digits.reverse.dropWhile (· = 0)).reverse, k + digits.length⟩

end ClusterClient.Number

import ClusterClient.Json.Token
import ClusterClient.Number.Shortest

/-!
What a numeral means. Whole numbers that fit a 64-bit word, signed or unsigned, are exact. All
others are binary64 numbers: the leading digits that fit 64 bits, rounded, then multiplied or
divided by the power of ten, itself rounded, that the exponent and the remaining digits leave.
Going to zero is allowed, leaving the range is not.
-/

namespace ClusterClient.Json

open ClusterClient.Number (Binary64 Decimal)

inductive Number
  | integer (i : Int)
  | real (negative : Bool) (magnitude : Binary64)
deriving DecidableEq, Repr, Inhabited

def wordBound : Nat := UInt64.size

namespace Numeral

def leading : Nat → List Nat → Nat × Nat
  | n, [] => (n, 0)
  | n, d :: rest =>
    if n * 10 + d < wordBound then leading (n * 10 + d) rest else (n, rest.length + 1)

/-- The exact value of a whole number within the range of a signed or an unsigned word of 64
bits. A negative zero is not a whole number. -/
def integer? (n : Numeral) : Option Int :=
  if n.fraction = [] ∧ n.exponent = none then
    let value := digitsValue n.whole
    if n.negative then
      if 0 < value ∧ value ≤ wordBound / 2 then some (-(value : Int)) else none
    else if value < wordBound then some (value : Int) else none
  else none

def scaleDown (x : Binary64) (k : Nat) : Option Binary64 :=
  if k ≤ Binary64.maxPowerOfTen then do x.div? (← Binary64.powerOfTen? k)
  else if x.isZero then some x
  else do
    let next ← x.div? (← Binary64.powerOfTen? Binary64.maxPowerOfTen)
    scaleDown next (k - Binary64.maxPowerOfTen)
termination_by k
decreasing_by simp only [Binary64.maxPowerOfTen] at *; omega

def scaleUp (x : Binary64) (k : Nat) : Option Binary64 :=
  if k ≤ Binary64.maxPowerOfTen then do x.mul? (← Binary64.powerOfTen? k)
  else if x.isZero then some x
  else none

def magnitude? (n : Numeral) : Option Binary64 := do
  let (whole, dropped) := leading 0 n.whole
  let (significand, unused) := leading whole n.fraction
  let places : Int := n.fraction.length - unused
  let scale : Int := dropped - places + n.exponent.getD 0
  let x ← Binary64.ofNat? significand
  if 0 ≤ scale then scaleUp x scale.toNat else scaleDown x (-scale).toNat

def number? (n : Numeral) : Option Number :=
  match n.integer? with
  | some i => some (.integer i)
  | none => n.magnitude?.map (.real n.negative)

end Numeral

namespace Number

def maxWholeDigits : Int := 16
def maxLeadingZeros : Int := 4

def digitChar (d : Nat) : Char := Char.ofNat (48 + d)

def decimalText (d : Decimal) : List Char :=
  let chars := d.digits.map digitChar
  let count : Int := d.digits.length
  if count ≤ d.point ∧ d.point ≤ maxWholeDigits then
    chars ++ List.replicate (d.point - count).toNat '0' ++ ['.', '0']
  else if 0 < d.point ∧ d.point ≤ maxWholeDigits then
    chars.take d.point.toNat ++ '.' :: chars.drop d.point.toNat
  else if -maxLeadingZeros ≤ d.point ∧ d.point ≤ 0 then
    '0' :: '.' :: List.replicate (-d.point).toNat '0' ++ chars
  else
    let exponent := d.point - 1
    let digits := Nat.toDigits 10 exponent.natAbs
    let padded := if digits.length < 2 then '0' :: digits else digits
    let tail := match chars with
      | [] => []
      | [c] => [c]
      | c :: more => c :: '.' :: more
    tail ++ ['e', if exponent < 0 then '-' else '+'] ++ padded

def text : Number → List Char
  | integer i => if i < 0 then '-' :: Nat.toDigits 10 i.natAbs else Nat.toDigits 10 i.natAbs
  | real negative x =>
    let body := if x.isZero then ['0', '.', '0'] else decimalText x.shortest
    if negative then '-' :: body else body

end Number

end ClusterClient.Json

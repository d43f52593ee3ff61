namespace ClusterClient.Number

def divideEven (num den : Nat) : Nat :=
  let quotient := num / den
  let twice := 2 * (num % den)
  if twice < den ∨ (twice = den ∧ quotient % 2 = 0) then quotient else quotient + 1

structure Binary64 where
  significand : Nat
  exponent : Nat
deriving DecidableEq, Repr, Inhabited

namespace Binary64

def unitsPerOne : Nat := 1 <<< 1074

def maxExponent : Nat := 2045

def units (x : Binary64) : Nat := x.significand <<< x.exponent

def zero : Binary64 := ⟨0, 0⟩

def isZero (x : Binary64) : Bool := x.significand == 0

def roundUnits (num den : Nat) : Option Binary64 :=
  let exponent := Nat.log2 (num / den) - 52
  let significand := divideEven num (den <<< exponent)
  let x : Binary64 :=
    if significand = 1 <<< 53 then ⟨1 <<< 52, exponent + 1⟩ else ⟨significand, exponent⟩
  if x.exponent ≤ maxExponent then some x else none

def round (num den : Nat) : Option Binary64 := roundUnits (num * unitsPerOne) den

def ofNat? (n : Nat) : Option Binary64 := round n 1

def mul? (x y : Binary64) : Option Binary64 :=
  roundUnits (x.units * y.units) unitsPerOne

def div? (x y : Binary64) : Option Binary64 :=
  if y.isZero then none else roundUnits (x.units * unitsPerOne) y.units

def add? (x y : Binary64) : Option Binary64 := roundUnits (x.units + y.units) 1

def maxPowerOfTen : Nat := 308

def powerOfTen? (n : Nat) : Option Binary64 := ofNat? (Nat.pow 10 n)

end Binary64

end ClusterClient.Number

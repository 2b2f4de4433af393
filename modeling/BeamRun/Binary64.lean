/-! Binary64 numbers as bit patterns; arithmetic rounds the exact rational result once, half to even. -/

namespace BeamRun

structure Binary64 where
  bits : UInt64
  deriving DecidableEq, Repr

namespace Binary64

/-- What the first binary digit of a full significand counts. -/
def hiddenBit : Nat := 1 <<< 52

def signBit : Nat := 1 <<< 63

def infinityMagnitude : Nat := 2047 * hiddenBit

def isNegative (x : Binary64) : Bool := signBit ≤ x.bits.toNat

/-- The bit pattern without its sign. Among numbers it grows with the absolute value. -/
def magnitude (x : Binary64) : Nat := x.bits.toNat % signBit

def isFinite (x : Binary64) : Bool := x.magnitude < infinityMagnitude

def isNaN (x : Binary64) : Bool := infinityMagnitude < x.magnitude

def significand (x : Binary64) : Nat :=
  if x.magnitude < hiddenBit then x.magnitude else hiddenBit + x.magnitude % hiddenBit

/-- A finite number has the absolute value `significand * 2 ^ exponent`. -/
def exponent (x : Binary64) : Int := (max (x.magnitude / hiddenBit) 1 : Nat) - 1075

def numerator (x : Binary64) : Nat := x.significand <<< x.exponent.toNat

def denominator (x : Binary64) : Nat := 1 <<< (-x.exponent).toNat

/-- Position on the number line in steps of one representable number; both zeros are at `0`. -/
def position (x : Binary64) : Int :=
  if x.isNegative then -(x.magnitude : Int) else x.magnitude

def ofMagnitude (negative : Bool) (magnitude : Nat) : Binary64 :=
  ⟨UInt64.ofNat (if negative then signBit + magnitude else magnitude)⟩

def zero : Binary64 := ⟨0⟩

def neg (x : Binary64) : Binary64 := ofMagnitude (!x.isNegative) x.magnitude

/-- `num / den` to the nearest whole number, a half to the even neighbour. -/
def roundHalfEven (num den : Nat) : Nat :=
  let floor := num / den
  let twice := 2 * (num % den)
  if twice < den ∨ (twice = den ∧ floor % 2 = 0) then floor else floor + 1

/-- The greatest `k` with `2 ^ k ≤ num / den`, for positive arguments. -/
def floorLog2 (num den : Nat) : Int :=
  let k : Int := (num.log2 : Int) - den.log2
  if den <<< k.toNat ≤ num <<< (-k).toNat then k else k - 1

/-- Bit pattern of the number nearest to `num / den`; a carry out of the significand moves into the
exponent field by itself, and what lies beyond the greatest number becomes infinity. -/
def nearestMagnitude (num den : Nat) : Nat :=
  if num = 0 then 0
  else
    let exponent := max (floorLog2 num den - 52) (-1074)
    let significand := roundHalfEven (num <<< (-exponent).toNat) (den <<< exponent.toNat)
    min ((exponent + 1074).toNat * hiddenBit + significand) infinityMagnitude

def ofRatio (negative : Bool) (num den : Nat) : Binary64 :=
  ofMagnitude negative (nearestMagnitude num den)

def ofNat (n : Nat) : Binary64 := ofRatio false n 1

def ofInt (i : Int) : Binary64 := ofRatio (i < 0) i.natAbs 1

def mul (x y : Binary64) : Binary64 :=
  ofRatio (x.isNegative != y.isNegative) (x.numerator * y.numerator) (x.denominator * y.denominator)

/-- Quotient by a finite number other than zero; an infinity or a NaN is left as it is. -/
def div (x y : Binary64) : Binary64 :=
  if x.isFinite then
    ofRatio (x.isNegative != y.isNegative) (x.numerator * y.denominator) (x.denominator * y.numerator)
  else x

protected def Le (x y : Binary64) : Prop :=
  x.isNaN = false ∧ y.isNaN = false ∧ x.position ≤ y.position

protected def Lt (x y : Binary64) : Prop :=
  x.isNaN = false ∧ y.isNaN = false ∧ x.position < y.position

instance : LE Binary64 := ⟨Binary64.Le⟩

instance : LT Binary64 := ⟨Binary64.Lt⟩

instance (x y : Binary64) : Decidable (x ≤ y) :=
  inferInstanceAs (Decidable (_ ∧ _ ∧ _))

instance (x y : Binary64) : Decidable (x < y) :=
  inferInstanceAs (Decidable (_ ∧ _ ∧ _))

/-- Equality of values: the two zeros are the same and a NaN is not even the same as itself. -/
def sameValue (x y : Binary64) : Bool := !x.isNaN && !y.isNaN && x.position == y.position

end Binary64
end BeamRun

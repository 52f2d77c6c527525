/-
AbilityText.Double — double-precision numbers as their sixty-four bits, with the comparison that
IEEE 754 prescribes. The bits tell apart what the comparison identifies, and keep the payload of a
NaN.
-/

namespace AbilityText

/-- A double-precision number: sign, eleven exponent bits, fifty-two fraction bits. -/
structure Double where
  bits : UInt64
deriving DecidableEq

namespace Double

/-- The number without its sign. -/
def magnitude (x : Double) : UInt64 := x.bits &&& 0x7FFFFFFFFFFFFFFF

/-- Above the bits of infinity lie the values that are no numbers. -/
def isNaN (x : Double) : Bool := 0x7FF0000000000000 < x.magnitude

/-- Zero of either sign. -/
def isZero (x : Double) : Bool := x.magnitude == 0

/-- Numeric equality: no NaN equals anything, and the two zeros are equal. -/
def same (x y : Double) : Bool :=
  !x.isNaN && !y.isNaN && (x.bits == y.bits || (x.isZero && y.isZero))

/-- A quotient rounded to the nearest whole number, a half to the even neighbour. -/
def roundQuotient (n m : Nat) : Nat :=
  let q := n / m
  let twice := 2 * (n % m)
  if m < twice || (m == twice && q % 2 == 1) then q + 1 else q

/-- The double nearest to `n / m`, for `n` between one and `m`, or zero for `n = 0`. The exponent is
the number of doublings that bring `n` up to `m`. -/
def ofRatio (n m : Nat) : Double :=
  if n = 0 then ⟨0⟩
  else
    let e := m.log2 - n.log2
    let doublings := if n <<< e < m then e + 1 else e
    let significand := roundQuotient (n <<< (52 + doublings)) m
    ⟨.ofNat ((1023 - doublings) <<< 52 + (significand - 1 <<< 52))⟩

end Double

end AbilityText

/-!
# Binary floating-point numbers

A number in a worksheet is an IEEE 754 binary64 number, held by its bit
pattern.  A finite pattern stands for `significand * 2 ^ exponent`, up to sign.
-/

namespace WorkbookSite.Decimal

/-- A binary64 number by its bit pattern. -/
structure Binary64 where
  bits : UInt64
deriving DecidableEq, Repr, Inhabited

namespace Binary64

def ofFloat (value : Float) : Binary64 := ⟨value.toBits⟩

/-- The leading bit of a normal significand, just above the fraction bits. -/
def hiddenBit : Nat := 0x10000000000000

def isNegative (number : Binary64) : Bool :=
  0x8000000000000000 ≤ number.bits.toNat

def exponentField (number : Binary64) : Nat :=
  number.bits.toNat / hiddenBit % 0x800

def fractionField (number : Binary64) : Nat :=
  number.bits.toNat % hiddenBit

/-- Infinities and the values that are no number fill the exponent field. -/
def isFinite (number : Binary64) : Bool :=
  number.exponentField != 0x7FF

/-- The integer significand; a normal number has a leading bit that is not
stored. -/
def significand (number : Binary64) : Nat :=
  if number.exponentField = 0 then number.fractionField
  else number.fractionField + hiddenBit

/-- The power of two that scales the significand, raised by 1075. -/
def biasedExponent (number : Binary64) : Nat :=
  max number.exponentField 1

end Binary64

end WorkbookSite.Decimal

/-!
Binary floating point as exact numbers.

A finite value is a sign, a mantissa and a power of two.  `BinaryFormat.round` takes a quotient
of whole numbers to the nearest value of a format, a tie to the even mantissa, and fails where
the format ends.  All other arithmetic goes through exact quotients.
-/

namespace WalletScreens.Number

structure BinaryFormat where
  precision : Nat
  minExponent : Int
  maxExponent : Int

def BinaryFormat.double : BinaryFormat := ⟨53, -1074, 971⟩

def BinaryFormat.single : BinaryFormat := ⟨24, -149, 104⟩

/-- The value `mantissa * 2 ^ exponent`, negated if `negative`. -/
structure Binary where
  negative : Bool
  mantissa : Nat
  exponent : Int
deriving DecidableEq, Repr

def scaled (numerator denominator : Nat) (exponent : Int) : Nat × Nat :=
  if 0 ≤ exponent then (numerator, denominator * Nat.pow 2 exponent.toNat)
  else (numerator * Nat.pow 2 (-exponent).toNat, denominator)

/-- The whole number nearest to a quotient, a tie going to the even one. -/
def nearest (numerator denominator : Nat) : Nat :=
  let quotient := numerator / denominator
  let twice := 2 * (numerator % denominator)
  if twice < denominator then quotient
  else if denominator < twice then quotient + 1
  else if quotient % 2 = 0 then quotient else quotient + 1

namespace BinaryFormat

/-- The nearest value of the format to a quotient, if it has one that large. -/
def round (format : BinaryFormat) (negative : Bool) (numerator denominator : Nat) :
    Option Binary :=
  if numerator = 0 then some ⟨negative, 0, format.minExponent⟩
  else
    let guess : Int := (numerator.log2 : Int) - denominator.log2 - format.precision
    let fits (exponent : Int) : Bool :=
      let (num, den) := scaled numerator denominator exponent
      num < den * Nat.pow 2 format.precision
    let exponent := max format.minExponent (if fits guess then guess else guess + 1)
    let (num, den) := scaled numerator denominator exponent
    let mantissa := nearest num den
    let (mantissa, exponent) :=
      if mantissa = Nat.pow 2 format.precision then (mantissa / 2, exponent + 1)
      else (mantissa, exponent)
    if exponent ≤ format.maxExponent then some ⟨negative, mantissa, exponent⟩ else none

end BinaryFormat

namespace Binary

def ratio (value : Binary) : Nat × Nat :=
  if 0 ≤ value.exponent then (value.mantissa * Nat.pow 2 value.exponent.toNat, 1)
  else (value.mantissa, Nat.pow 2 (-value.exponent).toNat)

def isZero (value : Binary) : Bool :=
  value.mantissa == 0

def toFormat (value : Binary) (format : BinaryFormat) : Option Binary :=
  let (num, den) := value.ratio
  format.round value.negative num den

def whole? (value : Binary) : Option Int :=
  let (num, den) := value.ratio
  if num % den = 0 then
    some (if value.negative then -((num / den : Nat) : Int) else (num / den : Nat))
  else none

def atLeast (value : Binary) (numerator denominator : Nat) : Bool :=
  let (num, den) := value.ratio
  if value.negative then num == 0 && numerator == 0 else numerator * den ≤ num * denominator

def neg (value : Binary) : Binary :=
  { value with negative := !value.negative }

end Binary

end WalletScreens.Number

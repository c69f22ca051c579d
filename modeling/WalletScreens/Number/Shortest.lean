import WalletScreens.Number.Binary

/-!
The shortest decimal that reads back as a binary value.

The decimals that round to a value form an interval around it, which holds its ends exactly
when the mantissa is even.  For one digit, two digits, and so on, the two neighbours of the
value on that decimal grid are tried; the first grid with a neighbour inside the interval
gives the digits.
-/

namespace WalletScreens.Number

/-- The number `digits * 10 ^ exponent`. -/
structure Decimal where
  digits : Nat
  exponent : Int
deriving DecidableEq, Repr

def Decimal.trimZeros : Nat → Decimal → Decimal
  | 0, decimal => decimal
  | fuel + 1, decimal =>
      if decimal.digits ≠ 0 ∧ decimal.digits % 10 = 0 then
        trimZeros fuel ⟨decimal.digits / 10, decimal.exponent + 1⟩
      else decimal

def Decimal.ratio (decimal : Decimal) : Nat × Nat :=
  if 0 ≤ decimal.exponent then (decimal.digits * Nat.pow 10 decimal.exponent.toNat, 1)
  else (decimal.digits, Nat.pow 10 (-decimal.exponent).toNat)

namespace Binary

/-- Twice the ends of the interval of numbers that round to the value, over `4 * 2 ^ -exponent`:
the gap below a power of two is half as wide as the one above it. -/
def quarterEnds (format : BinaryFormat) (value : Binary) : Nat × Nat :=
  let low :=
    if value.mantissa = Nat.pow 2 (format.precision - 1) ∧ format.minExponent < value.exponent
    then 4 * value.mantissa - 1 else 4 * value.mantissa - 2
  (low, 4 * value.mantissa + 2)

def readsBack (format : BinaryFormat) (value : Binary) (decimal : Decimal) : Bool :=
  let (low, high) := value.quarterEnds format
  let (num, den) := decimal.ratio
  let (num, den) := scaled num den (value.exponent - 2)
  if value.mantissa % 2 = 0 then low * den ≤ num && num ≤ high * den
  else low * den < num && num < high * den

/-- The exponent `k` with `10 ^ (k - 1) ≤ value < 10 ^ k`, from an estimate that is never
more than one too great. -/
def decimalPoint (value : Binary) : Int :=
  let (num, den) := value.ratio
  let estimate : Int := (((num.log2 : Int) - den.log2 + 1) * 30103).fdiv 100000 + 1
  let below (k : Int) : Bool :=
    let (bound, unit) := (Decimal.mk 1 k).ratio
    num * unit < bound * den
  if below (estimate - 1) then estimate - 1 else if below estimate then estimate else estimate + 1

/-- The neighbour of the value on the grid of `count` digits that reads back, the nearer of two
and the greater of two equally near. -/
def onGrid? (format : BinaryFormat) (value : Binary) (count : Nat) : Option Decimal :=
  let exponent := value.decimalPoint - count
  let (num, den) := value.ratio
  let (num, den) :=
    if 0 ≤ exponent then (num, den * Nat.pow 10 exponent.toNat)
    else (num * Nat.pow 10 (-exponent).toNat, den)
  let floor : Decimal := ⟨num / den, exponent⟩
  let ceiling : Decimal := ⟨num / den + 1, exponent⟩
  match value.readsBack format floor, value.readsBack format ceiling with
  | true, true => some (if 2 * (num % den) < den then floor else ceiling)
  | true, false => some floor
  | false, true => some ceiling
  | false, false => none

def firstGrid (format : BinaryFormat) (value : Binary) : Nat → Nat → Decimal
  | 0, count => (value.onGrid? format count).getD ⟨value.mantissa, value.exponent⟩
  | fuel + 1, count =>
      match value.onGrid? format count with
      | some decimal => decimal
      | none => firstGrid format value fuel (count + 1)

/-- The shortest decimal that reads back as the magnitude of the value. -/
def shortest (format : BinaryFormat) (value : Binary) : Decimal :=
  if value.mantissa = 0 then ⟨0, 0⟩ else (value.firstGrid format 17 1).trimZeros 20

end Binary

def Decimal.positional (decimal : Decimal) : List Char :=
  let digits := Nat.toDigits 10 decimal.digits
  if 0 ≤ decimal.exponent then digits ++ List.replicate decimal.exponent.toNat '0'
  else
    let places := (-decimal.exponent).toNat
    let padded := List.replicate (places + 1 - digits.length) '0' ++ digits
    padded.take (padded.length - places) ++ '.' :: padded.drop (padded.length - places)

def Decimal.scientific (decimal : Decimal) : List Char :=
  let digits := Nat.toDigits 10 decimal.digits
  let power := decimal.exponent + (digits.length - 1 : Nat)
  let fraction := match digits.drop 1 with
    | [] => []
    | rest => '.' :: rest
  digits.take 1 ++ fraction ++ 'e' :: (toString power).toList

def withPoint (digits : List Char) : List Char :=
  if digits.contains '.' then digits else digits ++ ['.', '0']

namespace Binary

def signed (value : Binary) (digits : List Char) : String :=
  String.ofList ((if value.negative then ['-'] else []) ++ digits)

def toText (format : BinaryFormat) (value : Binary) : String :=
  value.signed (value.shortest format).positional

def toPointedText (format : BinaryFormat) (value : Binary) : String :=
  value.signed (withPoint (value.shortest format).positional)

end Binary

end WalletScreens.Number

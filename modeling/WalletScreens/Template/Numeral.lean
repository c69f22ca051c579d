import WalletScreens.Number.Binary
import WalletScreens.Text.Digits

/-!
Numerals: how templates write numbers.

Whole numbers are decimal, or in base two, eight or sixteen after `0b`, `0o` or `0x`.  A point
or a power of ten makes a decimal, which is rounded once; one too great for that is infinite.
Low lines may stand between the digits.
-/

namespace WalletScreens.Template

open Number Text

inductive Numeral where
  | whole (value : Nat)
  | decimal (value : Binary)
  | infinite
deriving DecidableEq, Repr

namespace Numeral

def wholeLimit : Nat := 340282366920938463463374607431768211455

def base? (c : Char) : Option Nat :=
  if c = 'b' ∨ c = 'B' then some 2
  else if c = 'o' ∨ c = 'O' then some 8
  else if c = 'x' ∨ c = 'X' then some 16
  else none

/-- Where a decimal numeral is, while its end is looked for. -/
inductive Place where
  | integer
  | fraction
  | power
  | signedPower
deriving DecidableEq

def Place.step (place : Place) (c : Char) : Option Place :=
  if c == '.' then if place = .integer then some .fraction else none
  else if c == 'e' || c == 'E' then
    match place with
    | .integer | .fraction => some .power
    | _ => none
  else if c == '+' || c == '-' then if place = .power then some .signedPower else none
  else if c.isDigit then some (if place = .power then .signedPower else place)
  else if c == '_' then some place
  else none

def span (place : Place) : List Char → List Char × Place × List Char
  | [] => ([], place, [])
  | c :: rest =>
      match place.step c with
      | some next =>
          let (chars, last, rest) := span next rest
          (c :: chars, last, rest)
      | none => ([], place, c :: rest)

/-- The digits without the low lines between them; a low line cannot be the last. -/
def digits? (chars : List Char) : Option (List Char) :=
  if chars.getLast? = some '_' then none else some (chars.filter (· != '_'))

def digitsValue (digits : List Char) : Nat :=
  (digitsFrom 10 0 digits).getD 0

def ofDecimal? (digits : List Char) : Option Numeral :=
  let isPower (c : Char) : Bool := c == 'e' || c == 'E'
  let mantissa := digits.takeWhile fun c => !isPower c
  let power := (digits.dropWhile fun c => !isPower c).drop 1
  let whole := mantissa.takeWhile (· != '.')
  let places := (mantissa.dropWhile (· != '.')).drop 1
  let (negative, exponent) := match power with
    | '-' :: digits => (true, digits)
    | '+' :: digits => (false, digits)
    | digits => (false, digits)
  if digits.any isPower && exponent.isEmpty then none
  else
    let value := digitsValue (whole ++ places)
    let shift : Int :=
      (if negative then -(digitsValue exponent : Int) else digitsValue exponent) - places.length
    -- Beyond these bounds the value is too great, or rounds to zero, whatever the power.
    let shift := max (-(400 + mantissa.length : Int)) (min 400 shift)
    let rounded :=
      if 0 ≤ shift then BinaryFormat.double.round false (value * Nat.pow 10 shift.toNat) 1
      else BinaryFormat.double.round false value (Nat.pow 10 (-shift).toNat)
    some (match rounded with
      | some value => .decimal value
      | none => .infinite)

def ofSpan? (chars : List Char) (place : Place) : Option Numeral := do
  let digits ← digits? chars
  if place = .integer then (naturalIn? 10 wholeLimit digits).map .whole else ofDecimal? digits

/-- The number at the front, if its numeral is a proper one, and the source after it. -/
def read (input : List Char) : Option Numeral × List Char :=
  let decimal : Option Numeral × List Char :=
    let (chars, place, rest) := span .integer input
    (ofSpan? chars place, rest)
  match input with
  | '0' :: letter :: rest =>
      match base? letter with
      | some base =>
          let belongs (c : Char) : Bool :=
            c == '_' || (digitIn? (if base = 16 then 16 else 10) c).isSome
          let numeral := do
            let digits ← digits? (rest.takeWhile belongs)
            (naturalIn? base wholeLimit digits).map .whole
          (numeral, rest.dropWhile belongs)
      | none => decimal
  | _ => decimal

end Numeral

end WalletScreens.Template

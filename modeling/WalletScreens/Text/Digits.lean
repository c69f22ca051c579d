/-!
Whole numbers in text: reading the digits of a base under a limit, and writing hexadecimal pairs.
-/

namespace WalletScreens.Text

/-- The value of an ASCII digit in a base of at most sixteen; letters of either case go on
after nine. -/
def digitIn? (base : Nat) (c : Char) : Option Nat :=
  let code := c.toNat
  let within (first last : Char) : Bool := first.toNat ≤ code && code ≤ last.toNat
  let value? :=
    if within '0' '9' then some (code - '0'.toNat)
    else if within 'a' 'f' then some (code - 'a'.toNat + 10)
    else if within 'A' 'F' then some (code - 'A'.toNat + 10)
    else none
  value?.filter (· < base)

def digitsFrom (base read : Nat) : List Char → Option Nat
  | [] => some read
  | c :: rest => (digitIn? base c).bind fun digit => digitsFrom base (base * read + digit) rest

/-- One or more digits of a base, with an optional plus sign, of a number up to `limit`. -/
def naturalIn? (base limit : Nat) (chars : List Char) : Option Nat :=
  let digits := match chars with
    | '+' :: rest => rest
    | _ => chars
  match digits with
  | [] => none
  | _ => (digitsFrom base 0 digits).filter (· ≤ limit)

def natural? (limit : Nat) (chars : List Char) : Option Nat :=
  naturalIn? 10 limit chars

def wordLimit : Nat := 18446744073709551615

def hexDigit (value : Nat) : Char :=
  if value < 10 then Char.ofNat ('0'.toNat + value) else Char.ofNat ('a'.toNat + (value - 10))

def hexPair (byte : UInt8) : List Char :=
  [hexDigit (byte.toNat / 16), hexDigit (byte.toNat % 16)]

end WalletScreens.Text

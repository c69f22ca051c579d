/-!
Surrogates: the pairs of 16-bit units that stand for the characters beyond 0xFFFF.
-/

namespace WalletScreens.Text

def isLeadSurrogate (unit : Nat) : Bool :=
  0xD800 ≤ unit && unit ≤ 0xDBFF

def isTrailSurrogate (unit : Nat) : Bool :=
  0xDC00 ≤ unit && unit ≤ 0xDFFF

def pairSurrogates (lead trail : Nat) : Char :=
  Char.ofNat (0x10000 + (lead - 0xD800) * 0x400 + (trail - 0xDC00))

end WalletScreens.Text

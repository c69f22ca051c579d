import WalletScreens.Number.Shortest
import WalletScreens.Style.Brush

/-!
Text variants and how a terminal shows their size and weight.
-/

namespace WalletScreens.Theme

open Number Style

inductive Variant where
  | h3
  | h4
  | h5
  | subtitle1
  | body1
  | caption
deriving DecidableEq, Repr

namespace Variant

def all : List Variant := [.h3, .h4, .h5, .subtitle1, .body1, .caption]

def styleName : Variant → String
  | .h3 => "h3"
  | .h4 => "h4"
  | .h5 => "h5"
  | .subtitle1 => "subtitle1"
  | .body1 => "body1"
  | .caption => "caption"

end Variant

/-- A size in multiples of the body text, in the 32-bit format, and a weight. -/
structure TextStyle where
  size : Binary
  weight : Nat
deriving DecidableEq, Repr

/-- The 32-bit value nearest to a quotient; zero where the format has none. -/
def sizeOf (numerator denominator : Nat) : Binary :=
  (BinaryFormat.single.round false numerator denominator).getD ⟨false, 0, 0⟩

/-- Heavy or large text is bold, small text is dim.  The bound for small text is the 32-bit
value nearest to 0.8. -/
def TextStyle.brush (style : TextStyle) : Brush :=
  { bold := 500 ≤ style.weight || style.size.atLeast 2 1
    dim := !style.size.atLeast 13421773 16777216 }

structure Typography where
  h3 : TextStyle
  h4 : TextStyle
  h5 : TextStyle
  subtitle1 : TextStyle
  body1 : TextStyle
  caption : TextStyle
deriving DecidableEq, Repr

def Typography.get (typography : Typography) : Variant → TextStyle
  | .h3 => typography.h3
  | .h4 => typography.h4
  | .h5 => typography.h5
  | .subtitle1 => typography.subtitle1
  | .body1 => typography.body1
  | .caption => typography.caption

def Typography.app : Typography where
  h3 := ⟨sizeOf 3 1, 400⟩
  h4 := ⟨sizeOf 17 8, 400⟩
  h5 := ⟨sizeOf 3 2, 500⟩
  subtitle1 := ⟨sizeOf 1 1, 400⟩
  body1 := ⟨sizeOf 1 1, 400⟩
  caption := ⟨sizeOf 3 5, 400⟩

end WalletScreens.Theme

import WalletScreens.Theme.Color

/-!
How a piece of text is drawn on a terminal: a foreground colour, bold, dim.
-/

namespace WalletScreens.Style

open Theme (Rgb)

structure Brush where
  color : Option Nat := none
  bold : Bool := false
  dim : Bool := false
deriving DecidableEq, Repr

namespace Brush

def tint (brush : Brush) (color : Rgb) : Brush :=
  { brush with color := some color.terminalEntry }

def ofColor (color : Rgb) : Brush :=
  Brush.tint {} color

def opening (brush : Brush) : String :=
  (match brush.color with
    | some entry => "\x1b[38;5;" ++ toString entry ++ "m"
    | none => "") ++
  (if brush.bold then "\x1b[1m" else "") ++
  (if brush.dim then "\x1b[2m" else "")

def isBlank (brush : Brush) : Bool :=
  brush.color.isNone && !brush.bold && !brush.dim

def paint (brush : Brush) (text : String) : String :=
  if brush.isBlank then text else brush.opening ++ text ++ "\x1b[0m"

end Brush

end WalletScreens.Style

import WalletScreens.Text.Digits

/-!
Colours and their place in the palette of 256 terminal colours.
-/

namespace WalletScreens.Theme

structure Rgb where
  red : UInt8
  green : UInt8
  blue : UInt8
deriving DecidableEq, Repr

namespace Rgb

/-- The colour whose three low bytes are red, green and blue. -/
def ofHex (value : Nat) : Rgb :=
  ⟨UInt8.ofNat (value / 65536), UInt8.ofNat (value / 256), UInt8.ofNat value⟩

def css (color : Rgb) : String :=
  String.ofList ('#' :: (Text.hexPair color.red ++ Text.hexPair color.green ++
    Text.hexPair color.blue))

/-- The place of a channel on the six levels of the colour cube. -/
def cubeLevel (channel : UInt8) : Nat :=
  channel.toNat * 5 / 255

theorem cubeLevel_lt (channel : UInt8) : cubeLevel channel < 6 := by
  have bounded := channel.toNat_lt
  unfold cubeLevel
  omega

/-- The entry of a gray: one of the 24 steps of the ramp, or the cube's black or white. -/
def grayEntry (level : Nat) : Nat :=
  if level ≤ 7 then 16 else if 249 ≤ level then 231 else 232 + (level - 8) * 24 / 247

/-- The entry of a colour in the palette of 256: the gray ramp for grays, else the cube. -/
def terminalEntry (color : Rgb) : Nat :=
  if color.red = color.green ∧ color.green = color.blue then grayEntry color.red.toNat
  else 16 + 36 * cubeLevel color.red + 6 * cubeLevel color.green + cubeLevel color.blue

end Rgb

end WalletScreens.Theme

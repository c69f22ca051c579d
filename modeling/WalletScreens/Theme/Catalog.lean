import WalletScreens.Theme.Definition

/-!
The two built-in themes.
-/

namespace WalletScreens.Theme.Catalog

private def white : Rgb := .ofHex 0xffffff

private def role (light main dark : Nat) : ColorRole :=
  ⟨.ofHex light, .ofHex main, .ofHex dark, white⟩

def darkPalette : Palette where
  primary := role 0x5ab7ff 0x0097ff 0x0e75eb
  secondary := role 0x6dd2c4 0x00b09a 0x00937a
  error := role 0xff8a65 0xff5722 0xe64a19
  success := role 0x6dd2c4 0x00b09a 0x00937a
  text := ⟨white, .ofHex 0xb3b3b3, .ofHex 0x808080⟩
  background := ⟨.ofHex 0x303030, .ofHex 0x424242⟩
  divider := .ofHex 0x4f4f4f

def lightPalette : Palette where
  primary := role 0x4f1aff 0x0008ff 0x0006dd
  secondary := role 0x00d2c8 0x00b6a6 0x009685
  error := role 0xe57373 0xf44336 0xd32f2f
  success := role 0x00d2c8 0x00b6a6 0x009685
  text := ⟨.ofHex 0x212121, .ofHex 0x757575, .ofHex 0x9e9e9e⟩
  background := ⟨white, white⟩
  divider := .ofHex 0xe0e0e0

def dark : Definition := { mode := .dark, palette := darkPalette, typography := .app }

def light : Definition := { mode := .light, palette := lightPalette, typography := .app }

def resolve : Mode → Definition
  | .dark => dark
  | .light => light

def all : List Definition := [resolve .dark, resolve .light]

@[simp] theorem resolve_mode (mode : Mode) : (resolve mode).mode = mode := by
  cases mode <;> rfl

end WalletScreens.Theme.Catalog

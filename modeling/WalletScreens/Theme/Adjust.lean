import WalletScreens.Theme.Catalog
import WalletScreens.Json.Value

/-!
Themes of one's own: palettes with some colours changed, and typographies with some variants
changed; and palettes as records.
-/

namespace WalletScreens.Theme

/-- The role with another colour in a shade, if it has that shade. -/
def ColorRole.recolor? (role : ColorRole) (shade : String) (color : Rgb) : Option ColorRole :=
  if shade = "light" then some { role with light := color }
  else if shade = "main" then some { role with main := color }
  else if shade = "dark" then some { role with dark := color }
  else if shade = "contrast_text" then some { role with contrastText := color } else none

def TextColors.recolor? (colors : TextColors) (shade : String) (color : Rgb) :
    Option TextColors :=
  if shade = "primary" ∨ shade = "main" then some { colors with primary := color }
  else if shade = "secondary" then some { colors with secondary := color }
  else if shade = "disabled" then some { colors with disabled := color } else none

def Background.recolor? (colors : Background) (shade : String) (color : Rgb) :
    Option Background :=
  if shade = "default" ∨ shade = "main" then some { colors with default := color }
  else if shade = "paper" then some { colors with paper := color } else none

namespace Palette

/-- The palette with another colour at a dotted path, if there is one at that path. -/
def recolor? (palette : Palette) (role : String) (color : Rgb) : Option Palette :=
  let (group, shade) := splitRole role
  if group = "primary" then
    (palette.primary.recolor? shade color).map fun primary => { palette with primary }
  else if group = "secondary" then
    (palette.secondary.recolor? shade color).map fun secondary => { palette with secondary }
  else if group = "error" then
    (palette.error.recolor? shade color).map fun error => { palette with error }
  else if group = "success" then
    (palette.success.recolor? shade color).map fun success => { palette with success }
  else if group = "text" then
    (palette.text.recolor? shade color).map fun text => { palette with text }
  else if group = "background" then
    (palette.background.recolor? shade color).map fun background => { palette with background }
  else if group = "divider" then some { palette with divider := color } else none

def toJson (palette : Palette) : Json.Value :=
  let shades (role : ColorRole) : Json.Value := .ofFields
    [("light", .text role.light.css), ("main", .text role.main.css),
      ("dark", .text role.dark.css), ("contrast_text", .text role.contrastText.css)]
  .ofFields
    [("primary", shades palette.primary), ("secondary", shades palette.secondary),
      ("error", shades palette.error), ("success", shades palette.success),
      ("text", .ofFields
        [("primary", .text palette.text.primary.css),
          ("secondary", .text palette.text.secondary.css),
          ("disabled", .text palette.text.disabled.css)]),
      ("background", .ofFields
        [("default", .text palette.background.default.css),
          ("paper", .text palette.background.paper.css)]),
      ("divider", .text palette.divider.css)]

end Palette

def Variant.ofName? (name : String) : Option Variant :=
  Variant.all.find? fun variant => variant.styleName == name

def Typography.set (typography : Typography) (variant : Variant) (style : TextStyle) :
    Typography :=
  match variant with
  | .h3 => { typography with h3 := style }
  | .h4 => { typography with h4 := style }
  | .h5 => { typography with h5 := style }
  | .subtitle1 => { typography with subtitle1 := style }
  | .body1 => { typography with body1 := style }
  | .caption => { typography with caption := style }

end WalletScreens.Theme

import WalletScreens.Style.Output
import WalletScreens.Theme.Mode
import WalletScreens.Theme.Palette
import WalletScreens.Theme.Typography

/-!
A theme: palette and typography of one mode, and the style sheet derived from them.

The names of the sheet are the vocabulary of the screens; which names there are does not depend
on the colours or sizes.
-/

namespace WalletScreens.Theme

open Style

def colorStyles (palette : Palette) : List (String × Entry) :=
  [("primary", .concrete (.ofColor palette.primary.main)),
    ("primary.light", .concrete (.ofColor palette.primary.light)),
    ("primary.dark", .concrete (.ofColor palette.primary.dark)),
    ("secondary", .concrete (.ofColor palette.secondary.main)),
    ("error", .concrete (.ofColor palette.error.main)),
    ("error.dark", .concrete (.ofColor palette.error.dark)),
    ("success", .concrete (.ofColor palette.success.main)),
    ("text", .concrete (.ofColor palette.text.primary)),
    ("text.secondary", .concrete (.ofColor palette.text.secondary)),
    ("text.disabled", .concrete (.ofColor palette.text.disabled)),
    ("divider", .concrete (.ofColor palette.divider))]

def variantStyles (palette : Palette) (typography : Typography) : List (String × Entry) :=
  Variant.all.map fun variant =>
    (variant.styleName, .concrete ((typography.get variant).brush.tint palette.text.primary))

def partStyles (palette : Palette) (typography : Typography) : List (String × Entry) :=
  let h4 := typography.h4.brush
  let h5 := typography.h5.brush
  let caption := typography.caption.brush
  [("headline", .sameAs "h3"),
    ("logo", .concrete (h5.tint palette.primary.main)),
    ("mode", .sameAs "secondary"),
    ("card.name", .concrete (h4.tint palette.text.primary)),
    ("card.address", .sameAs "text.secondary"),
    ("card.coins", .concrete (h5.tint palette.text.primary)),
    ("card.votes", .concrete (h5.tint palette.primary.main)),
    ("card.marker", .sameAs "primary"),
    ("card.action", .sameAs "text.secondary"),
    ("card.add", .sameAs "secondary"),
    ("info.label", .concrete (caption.tint palette.text.secondary)),
    ("info.content", .sameAs "text"),
    ("info.large", .sameAs "h5"),
    ("button", .concrete (Brush.tint { bold := true } palette.primary.main)),
    ("button.disabled", .sameAs "text.disabled"),
    ("tx.icon", .sameAs "text.secondary"),
    ("tx.in", .concrete (h5.tint palette.secondary.main)),
    ("tx.out", .concrete (h5.tint palette.text.primary)),
    ("field.label", .sameAs "text.secondary"),
    ("field.value", .sameAs "text"),
    ("field.placeholder", .sameAs "text.disabled"),
    ("error.border", .sameAs "error.dark")]

def deriveStyles (palette : Palette) (typography : Typography) : Sheet :=
  (colorStyles palette ++ variantStyles palette typography ++ partStyles palette typography).foldl
    (fun sheet style => sheet.add style.1 style.2) {}

/-- A theme with the sheet that its other parts determine. -/
structure Definition where
  mode : Mode
  palette : Palette
  typography : Typography
  styles : Sheet := deriveStyles palette typography
  styles_eq : styles = deriveStyles palette typography := by rfl

namespace Definition

instance : DecidableEq Definition := fun first second =>
  decidable_of_iff
    (first.mode = second.mode ∧ first.palette = second.palette ∧
      first.typography = second.typography) <| by
    constructor
    · intro same
      cases first with
      | mk mode palette typography styles derived =>
          cases second with
          | mk mode' palette' typography' styles' derived' =>
              obtain ⟨rfl, rfl, rfl⟩ := same
              subst derived derived'
              rfl
    · rintro rfl
      exact ⟨rfl, rfl, rfl⟩

def validate (definition : Definition) : Except SheetFault Unit :=
  definition.styles.validate

end Definition

end WalletScreens.Theme

import WalletScreens.Theme.Color

/-!
The colours a theme gives to the parts of a screen, and their dotted names.
-/

namespace WalletScreens.Theme

structure ColorRole where
  light : Rgb
  main : Rgb
  dark : Rgb
  contrastText : Rgb
deriving DecidableEq, Repr

structure TextColors where
  primary : Rgb
  secondary : Rgb
  disabled : Rgb
deriving DecidableEq, Repr

structure Background where
  default : Rgb
  paper : Rgb
deriving DecidableEq, Repr

structure Palette where
  primary : ColorRole
  secondary : ColorRole
  error : ColorRole
  success : ColorRole
  text : TextColors
  background : Background
  divider : Rgb
deriving DecidableEq, Repr

def ColorRole.shade? (role : ColorRole) (shade : String) : Option Rgb :=
  if shade = "light" then some role.light
  else if shade = "main" then some role.main
  else if shade = "dark" then some role.dark
  else if shade = "contrast_text" then some role.contrastText else none

/-- A text colour by its name; `main` is the primary one. -/
def TextColors.shade? (colors : TextColors) (shade : String) : Option Rgb :=
  if shade = "primary" ∨ shade = "main" then some colors.primary
  else if shade = "secondary" then some colors.secondary
  else if shade = "disabled" then some colors.disabled else none

/-- A background colour by its name; `main` is the default one. -/
def Background.shade? (colors : Background) (shade : String) : Option Rgb :=
  if shade = "default" ∨ shade = "main" then some colors.default
  else if shade = "paper" then some colors.paper else none

def splitDot : List Char → Option (List Char × List Char)
  | [] => none
  | c :: rest =>
      if c = '.' then some ([], rest)
      else (splitDot rest).map fun parts => (c :: parts.1, parts.2)

/-- Group and shade of a dotted path; a bare group means its `main` shade. -/
def splitRole (role : String) : String × String :=
  match splitDot role.toList with
  | some (group, shade) => (String.ofList group, String.ofList shade)
  | none => (role, "main")

namespace Palette

/-- The paths of the colours on display, in this order. -/
def rolePaths : List String :=
  ["primary.light", "primary.main", "primary.dark",
    "secondary.light", "secondary.main", "secondary.dark",
    "error.main", "error.dark", "success.main",
    "text.primary", "text.secondary", "text.disabled",
    "background.default", "background.paper", "divider"]

/-- The colour of a group and shade.  The divider has one colour, whatever shade is named. -/
def shade? (palette : Palette) (group shade : String) : Option Rgb :=
  if group = "primary" then palette.primary.shade? shade
  else if group = "secondary" then palette.secondary.shade? shade
  else if group = "error" then palette.error.shade? shade
  else if group = "success" then palette.success.shade? shade
  else if group = "text" then palette.text.shade? shade
  else if group = "background" then palette.background.shade? shade
  else if group = "divider" then some palette.divider else none

def color (palette : Palette) (role : String) : Option Rgb :=
  let (group, shade) := splitRole role
  palette.shade? group shade

end Palette

end WalletScreens.Theme

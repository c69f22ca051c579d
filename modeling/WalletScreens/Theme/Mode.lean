import WalletScreens.Text.Blank

/-!
The two theme modes, the preference that picks the first of them, and what can go wrong when a
theme is asked for.
-/

namespace WalletScreens.Theme

inductive ThemeFault where
  | notMounted
  | noProvider
  | invalidMode (text : String)
deriving DecidableEq, Repr

def ThemeFault.message : ThemeFault → String
  | .notMounted => "theme toggle requested before any theme scope was mounted"
  | .noProvider => "no theme is in scope; render components through a ThemeScope"
  | .invalidMode text => "unknown theme mode '" ++ text ++ "' (expected dark or light)"

inductive Mode where
  | dark
  | light
deriving DecidableEq, Repr

/-- A setting as it is compared: blanks at its ends and the case of ASCII letters do not count. -/
def settingWord (text : String) : String :=
  String.ofList ((Text.trim text.toList).map Char.toLower)

namespace Mode

def toggled : Mode → Mode
  | .dark => .light
  | .light => .dark

def isDark : Mode → Bool
  | .dark => true
  | .light => false

def ofDark : Bool → Mode
  | true => .dark
  | false => .light

def name : Mode → String
  | .dark => "dark"
  | .light => "light"

def ofName? (name : String) : Option Mode :=
  if name = "dark" then some .dark else if name = "light" then some .light else none

/-- Reads a mode; the fault quotes the text as it was given. -/
def parse (text : String) : Except ThemeFault Mode :=
  match ofName? (settingWord text) with
  | some mode => .ok mode
  | none => .error (.invalidMode text)

@[simp] theorem toggled_toggled (mode : Mode) : mode.toggled.toggled = mode := by
  cases mode <;> rfl

theorem toggled_ne (mode : Mode) : mode.toggled ≠ mode := by
  cases mode <;> decide

theorem toggled_eq_of_ne {mode other : Mode} (differs : mode ≠ other) : mode.toggled = other := by
  cases mode <;> cases other <;> first | rfl | contradiction

end Mode

inductive Preference where
  | dark
  | light
  | system
deriving DecidableEq, Repr

namespace Preference

def name : Preference → String
  | .dark => "dark"
  | .light => "light"
  | .system => "system"

def ofName? (name : String) : Option Preference :=
  if name = "dark" then some .dark
  else if name = "light" then some .light
  else if name = "system" then some .system else none

/-- Reads a preference; `auto` is another word for `system`. -/
def parse (text : String) : Except ThemeFault Preference :=
  let word := settingWord text
  match ofName? word with
  | some preference => .ok preference
  | none => if word = "auto" then .ok .system else .error (.invalidMode text)

/-- The mode to start in, where `detected` is the desktop's. -/
def resolve (detected : Mode) : Preference → Mode
  | .dark => .dark
  | .light => .light
  | .system => detected

end Preference

end WalletScreens.Theme

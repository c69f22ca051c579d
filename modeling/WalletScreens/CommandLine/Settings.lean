import WalletScreens.Style.Output
import WalletScreens.Text.Digits
import WalletScreens.Theme.Mode
import WalletScreens.Wallet.Page

/-!
The options of the command line and the values they take.

An option may be given once before the subcommand and once after it; the later one wins.
-/

namespace WalletScreens.CommandLine

open Style Text Theme Wallet

inductive UsageFault where
  | invalidValue
  | invalidNumber
  | unknownArgument
  | unknownSubcommand
  | missingSubcommand
  | givenTwice
  | valueForFlag
  | helpRequested
  | versionRequested
  | nothingGiven
deriving DecidableEq, Repr

namespace UsageFault

def message : UsageFault → String
  | .invalidValue => "an option has no value, or one that it does not know"
  | .invalidNumber => "an option needs a whole number"
  | .unknownArgument => "unknown argument"
  | .unknownSubcommand => "unknown subcommand"
  | .missingSubcommand => "a subcommand is missing"
  | .givenTwice => "an option is given twice"
  | .valueForFlag => "a flag is given a value"
  | .helpRequested | .nothingGiven => "evote <render|palette|interactive> [options]"
  | .versionRequested => "evote 0.2.0"

def isRequested : UsageFault → Bool
  | .helpRequested | .versionRequested => true
  | _ => false

end UsageFault

/-- Where on the command line arguments stand: before a subcommand, or after one of them. -/
inductive Level where
  | root
  | render
  | palette
  | interactive
deriving DecidableEq, Repr

def Level.ofName? (name : String) : Option Level :=
  if name = "render" then some .render
  else if name = "palette" then some .palette
  else if name = "interactive" then some .interactive else none

inductive Key where
  | theme
  | output
  | width
  | accounts
  | page
  | toggle
  | select
deriving DecidableEq, Repr

inductive Flag where
  | verbose
  | help
  | version
deriving DecidableEq, Repr

namespace Level

def key? (level : Level) (name : String) : Option Key :=
  if name = "theme" then some .theme
  else if name = "output" then some .output
  else if name = "width" then some .width
  else if name = "accounts" then some .accounts
  else
    match level with
    | .render =>
        if name = "page" then some .page
        else if name = "toggle" then some .toggle
        else if name = "select" then some .select else none
    | .interactive => if name = "page" then some .page else none
    | .root | .palette => none

def flag? (level : Level) (name : String) : Option Flag :=
  if name = "verbose" then some .verbose
  else if name = "help" then some .help
  else if name = "version" ∧ level = .root then some .version else none

def letter? (level : Level) (letter : Char) : Option Flag :=
  if letter = 'v' then some .verbose
  else if letter = 'h' then some .help
  else if letter = 'V' ∧ level = .root then some .version else none

end Level

/-- A page to start with, or the screen that shows the first of them beside the accounts. -/
abbrev PageChoice := Option Page

def pageChoice? (name : String) : Option PageChoice :=
  if name = "dashboard" then some none
  else if name = "send" then some (some .send)
  else if name = "receive" then some (some .receive)
  else if name = "voting" then some (some .voting) else none

structure Given where
  theme : Option Preference := none
  output : Option OutputMode := none
  width : Option Nat := none
  accounts : Option String := none
  page : Option PageChoice := none
  toggle : Option Nat := none
  select : Option UInt64 := none
  verbose : Nat := 0
deriving DecidableEq, Repr

namespace Given

def has (given : Given) : Key → Bool
  | .theme => given.theme.isSome
  | .output => given.output.isSome
  | .width => given.width.isSome
  | .accounts => given.accounts.isSome
  | .page => given.page.isSome
  | .toggle => given.toggle.isSome
  | .select => given.select.isSome

def isAny (given : Given) : Bool :=
  [.theme, .output, .width, .accounts, .page, .toggle, .select].any given.has || 0 < given.verbose

def wordValue (text : String) : Except UsageFault Nat :=
  match natural? wordLimit text.toList with
  | some value => .ok value
  | none => .error .invalidNumber

def choice {α : Type} (found : Option α) : Except UsageFault α :=
  match found with
  | some value => .ok value
  | none => .error .invalidValue

def put (given : Given) (key : Key) (text : String) : Except UsageFault Given :=
  match key with
  | .theme => (choice (Preference.ofName? text)).map fun value =>
      { given with theme := some value }
  | .output => (choice (OutputMode.ofName? text)).map fun value =>
      { given with output := some value }
  | .width => (wordValue text).map fun value => { given with width := some value }
  | .accounts =>
      if text = "" then .error .invalidValue else .ok { given with accounts := some text }
  | .page => (choice (pageChoice? text)).map fun value => { given with page := some value }
  | .toggle => (wordValue text).map fun value => { given with toggle := some value }
  | .select => (wordValue text).map fun value => { given with select := some (.ofNat value) }

/-- Gives an option its value: there has to be one, and not two. -/
def store (given : Given) (key : Key) (value : Option String) : Except UsageFault Given :=
  match value with
  | none => .error .invalidValue
  | some text => if given.has key then .error .givenTwice else given.put key text

/-- Counts a `-v`; the count stops at 255. -/
def countVerbose (given : Given) : Given :=
  { given with verbose := min (given.verbose + 1) 255 }

end Given

end WalletScreens.CommandLine

import WalletScreens.CommandLine.Settings

/-!
Reading the command line.

The value of an option is looked at only when the next option is met or the level ends, so a
fault in the form of a later argument comes before a fault in the value.  A word that is not
a value ends the root level if it names a subcommand, and is a fault everywhere else.
-/

namespace WalletScreens.CommandLine

open Style Theme

inductive Word where
  | escape
  | long (name : String) (value : Option String)
  | short (letters : List Char)
  | plain
deriving DecidableEq, Repr

def splitEquals : List Char → List Char × Option (List Char)
  | [] => ([], none)
  | '=' :: rest => ([], some rest)
  | c :: rest =>
      let (name, value) := splitEquals rest
      (c :: name, value)

/-- A lone dash is a plain word. -/
def Word.ofArgument (argument : String) : Word :=
  match argument.toList with
  | ['-', '-'] => .escape
  | '-' :: '-' :: rest =>
      let (name, value) := splitEquals rest
      .long (String.ofList name) (value.map String.ofList)
  | '-' :: letter :: rest => .short (letter :: rest)
  | _ => .plain

/-- A level half read.  `pending` is an option whose value has not been looked at, or not even
been met. -/
structure Walk where
  given : Given := {}
  pending : Option (Key × Option String) := none
  trailing : Bool := false
deriving DecidableEq, Repr

namespace Walk

def awaiting? (walk : Walk) : Option Key :=
  match walk.pending with
  | some (key, none) => some key
  | _ => none

def settle (walk : Walk) : Except UsageFault Walk :=
  match walk.pending with
  | none => .ok walk
  | some (key, value) =>
      (walk.given.store key value).map fun given => { walk with given, pending := none }

def raise (walk : Walk) (flag : Flag) : Except UsageFault Walk := do
  let walk ← walk.settle
  match flag with
  | .verbose => return { walk with given := walk.given.countVerbose }
  | .help => .error .helpRequested
  | .version => .error .versionRequested

def takeLong (walk : Walk) (level : Level) (name : String) (value : Option String) :
    Except UsageFault Walk :=
  match level.key? name, level.flag? name with
  | some key, _ => do
      let walk ← walk.settle
      match value with
      | some text => return { walk with given := ← walk.given.store key (some text) }
      | none => return { walk with pending := some (key, none) }
  | none, some flag => if value.isSome then .error .valueForFlag else walk.raise flag
  | none, none => .error .unknownArgument

def takeLetters (walk : Walk) (level : Level) : List Char → Except UsageFault Walk
  | [] => .ok walk
  | letter :: rest =>
      match level.letter? letter with
      | some flag => do (← walk.raise flag).takeLetters level rest
      | none => .error .unknownArgument

/-- What a level gave, once the value of its last option has been looked at.  The environment's
theme is looked at only where no other was given. -/
def finish (walk : Walk) (setting : Option String) :
    Except UsageFault (Given × Option Preference) := do
  let walk ← walk.settle
  match walk.given.theme, setting with
  | none, some name => return (walk.given, some (← Given.choice (Preference.ofName? name)))
  | _, _ => return (walk.given, none)

end Walk

/-- Whether a word is that of a subcommand; one of them is for help on the others. -/
def isSubcommand (word : String) : Bool :=
  (Level.ofName? word).isSome || word == "help"

def Level.stray (level : Level) (word : String) (trailing : Bool) : UsageFault :=
  if level = .root ∧ ¬(trailing ∧ isSubcommand word) then .unknownSubcommand
  else .unknownArgument

/-- Reads a level up to the end of the arguments or, at the root, to a subcommand. -/
def walkLevel (level : Level) : List String → Walk →
    Except UsageFault (Walk × Option (String × List String))
  | [], walk => .ok (walk, none)
  | argument :: rest, walk =>
      if walk.trailing then .error (level.stray argument true)
      else if level = .root ∧ walk.awaiting? = none ∧ isSubcommand argument then
        .ok (walk, some (argument, rest))
      else
        match Word.ofArgument argument with
        | .escape => walkLevel level rest { walk with trailing := true }
        | .long name value => do walkLevel level rest (← walk.takeLong level name value)
        | .short letters => do walkLevel level rest (← walk.takeLetters level letters)
        | .plain =>
            match walk.awaiting? with
            | some key => walkLevel level rest { walk with pending := some (key, some argument) }
            | none => .error (level.stray argument false)

def helpFault : List String → UsageFault
  | [] => .helpRequested
  | [word] => if isSubcommand word then .helpRequested else .unknownSubcommand
  | _ => .unknownSubcommand

inductive Command where
  | render (page : PageChoice) (toggles : Nat) (select : Option UInt64)
  | palette
  | interactive (page : PageChoice)
deriving DecidableEq, Repr

def Command.ofGiven? (level : Level) (given : Given) : Option Command :=
  match level with
  | .root => none
  | .render => some (.render (given.page.getD none) (given.toggle.getD 0) given.select)
  | .palette => some .palette
  | .interactive => some (.interactive (given.page.getD (some .send)))

structure Invocation where
  command : Command
  theme : Preference := .dark
  output : OutputMode := .auto
  width : Option Nat := none
  accounts : Option String := none
  verbose : Nat := 0
deriving DecidableEq, Repr

inductive LogLevel where
  | warn
  | debug
  | trace
deriving DecidableEq, Repr

namespace LogLevel

def name : LogLevel → String
  | .warn => "WARN"
  | .debug => "DEBUG"
  | .trace => "TRACE"

def ofVerbose : Nat → LogLevel
  | 0 => .warn
  | 1 => .debug
  | _ => .trace

end LogLevel

namespace Invocation

/-- The call that a command and both levels make; what stands after the subcommand wins, and the
environment's theme comes last. -/
def combine (command : Command) (inner outer : Given) (environment : Option Preference) :
    Invocation where
  command := command
  theme := ((inner.theme <|> outer.theme) <|> environment).getD .dark
  output := (inner.output <|> outer.output).getD .auto
  width := inner.width <|> outer.width
  accounts := inner.accounts <|> outer.accounts
  verbose := if 0 < inner.verbose then inner.verbose else outer.verbose

def bare (given : Given) (environment : Option Preference) : UsageFault :=
  if given.isAny || environment.isSome then .missingSubcommand else .nothingGiven

def parse (arguments : List String) (setting : Option String) :
    Except UsageFault Invocation := do
  let (root, stop) ← walkLevel .root arguments {}
  match stop with
  | none =>
      let (given, environment) ← root.finish setting
      .error (bare given environment)
  | some (word, rest) =>
      match Level.ofName? word with
      | none => .error (helpFault rest)
      | some level =>
          let (walk, _) ← walkLevel level rest {}
          let (inner, innerSetting) ← walk.finish setting
          let (outer, outerSetting) ← root.finish setting
          match Command.ofGiven? level inner with
          | some command =>
              return combine command inner outer (innerSetting <|> outerSetting)
          | none => .error .missingSubcommand

def logLevel (invocation : Invocation) : LogLevel :=
  .ofVerbose invocation.verbose

end Invocation

end WalletScreens.CommandLine

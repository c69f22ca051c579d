import WalletScreens.CommandLine.Parse
import WalletScreens.Session.Console
import WalletScreens.Wallet.Demo

/-!
What each command writes.

The file of accounts and the input are given as bytes; what is no text among them stops a run.  The
desktop's mode and what the terminal says of itself are given too.
-/

namespace WalletScreens.CommandLine

open Scope Screen Session Style Theme Wallet

def maxWidth : Nat := 72

/-- Whether the output shows colours, and its columns if it goes to a terminal. -/
structure Terminal where
  colored : Bool := false
  columns : Option Nat := none
deriving DecidableEq, Repr

inductive Failure where
  | unreadableAccounts
  | invalidAccounts
  | unreadableInput
  | screen (fault : RenderFault)
deriving DecidableEq, Repr

/-- What was being done; nothing is said of a screen. -/
def Failure.context : Failure → Option String
  | .unreadableAccounts => some "reading accounts from"
  | .invalidAccounts => some "parsing accounts in"
  | .unreadableInput => some "reading command from stdin"
  | .screen _ => none

structure Run where
  written : String
  failure : Option Failure := none
deriving DecidableEq, Repr

def readAccounts (content : Option ByteArray) : Except Failure (List Account) :=
  match content.bind String.fromUTF8? with
  | none => .error .unreadableAccounts
  | some text => (Account.parseList text).mapError fun _ => .invalidAccounts

def splitLines : List UInt8 → List (List UInt8)
  | [] => []
  | byte :: rest =>
      if byte = 10 then [] :: splitLines rest
      else
        match splitLines rest with
        | [] => [[byte]]
        | line :: lines => (byte :: line) :: lines

def lineOf (bytes : List UInt8) : Line :=
  String.fromUTF8? ⟨bytes.toArray⟩

/-- As wide as is asked for, or else as the terminal, but not without bounds. -/
def startDashboard (accounts : List Account) (width columns : Option Nat) : Dashboard :=
  { Dashboard.ofAccounts accounts with
    votes := Demo.votes
    width := min (width.getD (columns.getD defaultWidth)) maxWidth }

def repeated {α : Type} (step : α → α) : Nat → α → α
  | 0, value => value
  | count + 1, value => repeated step count (step value)

def renderOnce (renderer : Renderer) (mode : Mode) (dashboard : Dashboard) (page : PageChoice)
    (toggles : Nat) (select : Option UInt64) : Except RenderFault String :=
  let (scope, stage) := Stage.mount { registry := { mode }, terminal := renderer.terminal }
  let dashboard := match select with
    | some id => (dashboard.select id).2.1
    | none => dashboard
  let stage := repeated Stage.requestToggle toggles stage
  let screen := match page with
    | some page => Component.pageScreen { dashboard with page }
    | none => Component.dashboard dashboard
  match stage.registry.scope? scope with
  | some state => ((stage.renderScope renderer state (.component screen)).1).map (·.output)
  | none => .ok ""

def paletteLines (output : OutputMode) (terminal : Bool) (theme : Definition) : List String :=
  theme.mode.name :: Palette.rolePaths.filterMap fun role =>
    (theme.palette.color role).map fun color =>
      let swatch := if output.usesColor terminal then (Brush.ofColor color).paint "██" else "██"
      "  " ++ swatch ++ " " ++ Text.padRight role 20 ++ " " ++ color.css

def palettes (output : OutputMode) (terminal : Bool) : String :=
  String.join (Catalog.all.map fun theme =>
    "\n".intercalate (paletteLines output terminal theme) ++ "\n\n")

def openConsole (renderer : Renderer) (mode : Mode) (dashboard : Dashboard)
    (page : PageChoice) : Console :=
  let (scope, stage) := Stage.mount { registry := { mode }, terminal := renderer.terminal }
  let dashboard := match page with
    | some page => { dashboard with page }
    | none => dashboard
  { renderer, scope, dashboard, stage := (stage.observe 0).2 }

def failureOf : Ending → Option Failure
  | .finished => none
  | .unreadable => some .unreadableInput
  | .faulty fault => some (.screen fault)

/-- The accounts of a call, where `file` gives the bytes of the file that a path names. -/
def Invocation.loadAccounts (invocation : Invocation) (file : String → Option ByteArray) :
    Except Failure (List Account) :=
  match invocation.accounts with
  | some path => readAccounts (file path)
  | none => .ok Demo.accounts

def Invocation.dashboard (invocation : Invocation) (terminal : Terminal)
    (accounts : List Account) : Dashboard :=
  startDashboard accounts invocation.width terminal.columns

def Invocation.mode (invocation : Invocation) (detected : Mode) : Mode :=
  invocation.theme.resolve detected

def Invocation.renderer (invocation : Invocation) (terminal : Terminal) :
    Except RenderFault Renderer :=
  Renderer.withOutput invocation.output terminal.colored

def Invocation.session (invocation : Invocation) (detected : Mode) (terminal : Terminal)
    (accounts : List Account) (page : PageChoice) : Except RenderFault Console :=
  (invocation.renderer terminal).map fun renderer =>
    openConsole renderer (invocation.mode detected) (invocation.dashboard terminal accounts) page

def Invocation.perform (invocation : Invocation) (detected : Mode) (terminal : Terminal)
    (accounts : List Account) (lines : List Line) : Run :=
  match invocation.command with
  | .palette => ⟨palettes invocation.output terminal.colored, none⟩
  | .render page toggles select =>
      let drawn := (invocation.renderer terminal).bind fun renderer =>
        renderOnce renderer (invocation.mode detected) (invocation.dashboard terminal accounts)
          page toggles select
      match drawn with
      | .ok output => ⟨output ++ "\n", none⟩
      | .error fault => ⟨"", some (.screen fault)⟩
  | .interactive page =>
      match invocation.session detected terminal accounts page with
      | .ok console =>
          let (written, ending) := console.run lines
          ⟨written, failureOf ending⟩
      | .error fault => ⟨"", some (.screen fault)⟩

def Invocation.run (invocation : Invocation) (detected : Mode) (terminal : Terminal)
    (file : String → Option ByteArray) (input : ByteArray) : Run :=
  match invocation.loadAccounts file with
  | .error failure => ⟨"", some failure⟩
  | .ok accounts =>
      invocation.perform detected terminal accounts ((splitLines input.toList).map lineOf)

end WalletScreens.CommandLine

import WalletScreens.Scope.Pass
import WalletScreens.Session.Handle

/-!
The interactive session: a frame, then lines that are obeyed one by one, each followed by
another frame if something on the screen changed.

A toggle does not mark the dashboard as changed; it is noticed by the scope's revision.
-/

namespace WalletScreens.Session

open Scope Screen Wallet

def help : String :=
  "t: switch theme   s <id>: select account   p <send|receive|voting>: page\n" ++
  "f <field> <value>: fill form   enter: submit form   q: quit"

def pageOf (frame : Frame) : String :=
  frame.output ++ "\n\n" ++ help ++ "\n"

inductive Writing where
  | frame (drawn : Frame)
  | answer (text : String)

def Writing.text : Writing → String
  | .frame drawn => pageOf drawn
  | .answer text => text

def Writing.frame? : Writing → Option Frame
  | .frame drawn => some drawn
  | .answer _ => none

def lastFrame (written : List Writing) : Option Frame :=
  (written.filterMap Writing.frame?).getLast?

/-- A session between two lines, and the revision that the last frame was drawn at. -/
structure Console where
  renderer : Renderer
  scope : SubscriptionId
  dashboard : Dashboard
  stage : Stage
  drawnRevision : Option Nat := none

inductive Ending where
  | finished
  | unreadable
  | faulty (fault : RenderFault)
deriving DecidableEq, Repr

abbrev Line := Option String

structure Turn where
  written : List Writing := []
  next : Except Ending Console

def Turn.text (turn : Turn) : String :=
  String.join (turn.written.map Writing.text)

namespace Console

def screen (console : Console) : Tree :=
  .component (.dashboard console.dashboard)

def redraw (console : Console) (scope : ScopeState) : Turn :=
  match console.stage.renderScope console.renderer scope console.screen with
  | (.ok frame, stage) =>
      ⟨[.frame frame], .ok { console with stage, drawnRevision := some frame.revision }⟩
  | (.error fault, _) => ⟨[], .error (.faulty fault)⟩

/-- Writes a frame if the dashboard changed or the scope did since the last one. -/
def refresh (console : Console) (dirty : Bool) : Turn :=
  match console.stage.registry.scope? console.scope with
  | none => ⟨[], .ok console⟩
  | some scope =>
      if dirty || console.drawnRevision != some scope.revision then console.redraw scope
      else ⟨[], .ok console⟩

def start (console : Console) : Turn :=
  console.refresh true

def obey (console : Console) (line : String) : Turn :=
  let handled := (Event.parse line).handle console.dashboard console.stage
  match handled.step with
  | .quit => ⟨[], .error .finished⟩
  | .readOn dirty =>
      let after := { console with dashboard := handled.dashboard, stage := handled.stage }
      let drawn := after.refresh dirty
      ⟨.answer handled.written :: drawn.written, drawn.next⟩

def take (console : Console) : Line → Turn
  | some line => console.obey line
  | none => ⟨[], .error .unreadable⟩

/-- One more line, which nobody reads where the session is at its end. -/
def advance (turn : Turn) (line : Line) : Turn :=
  match turn.next with
  | .ok console =>
      let taken := console.take line
      ⟨turn.written ++ taken.written, taken.next⟩
  | .error _ => turn

/-- A session after so many lines of its input, with all that it has written from its first frame
on. -/
def after (console : Console) (lines : List Line) : Turn :=
  lines.foldl advance console.start

def run (console : Console) (lines : List Line) : String × Ending :=
  let turn := console.after lines
  match turn.next with
  | .ok _ => (turn.text, .finished)
  | .error ending => (turn.text, ending)

end Console

end WalletScreens.Session

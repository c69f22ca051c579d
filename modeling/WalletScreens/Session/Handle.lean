import WalletScreens.Json.Print
import WalletScreens.Scope.Stage
import WalletScreens.Session.Event
import WalletScreens.Wallet.Dashboard

/-!
What an event does to the dashboard and the theme.

Events of the theme leave the dashboard alone, and the others leave the theme alone.
-/

namespace WalletScreens.Session

open Scope Wallet

/-- What to do after an event: read on, with a new frame if the dashboard changed, or stop. -/
inductive Step where
  | readOn (dirty : Bool)
  | quit
deriving DecidableEq, Repr

/-- What is left of an event: the step after it, what it wrote, and the changed session. -/
structure Handled where
  step : Step
  written : String := ""
  dashboard : Dashboard
  stage : Stage

/-- The form of the active page as a record, on a line of its own. -/
def submission (dashboard : Dashboard) : String :=
  let fields := dashboard.submit.map fun field => (field.1, Json.Value.text field.2)
  (Json.Value.record fields).print ++ "\n"

/-- The fields to choose from where another one was named. -/
def fieldHint (page : Page) : String :=
  "fields on this page: " ++ ", ".intercalate page.fields ++ "\n"

def Event.handle (event : Event) (dashboard : Dashboard) (stage : Stage) : Handled :=
  match event with
  | .toggle => { step := .readOn false, dashboard, stage := stage.requestToggle }
  | .select id =>
      let (account, dashboard, notices) := dashboard.select id
      { step := .readOn account.isSome, dashboard, stage := stage.note notices }
  | .turnTo page =>
      { step := .readOn (dashboard.page != page), dashboard := { dashboard with page }, stage }
  | .fill field value =>
      let (known, dashboard, notices) := dashboard.setField field value
      { step := .readOn known
        written := if known then "" else fieldHint dashboard.page
        dashboard
        stage := stage.note notices }
  | .submit => { step := .readOn false, written := submission dashboard, dashboard, stage }
  | .redraw => { step := .readOn true, dashboard, stage }
  | .quit => { step := .quit, dashboard, stage }
  | .unknown input =>
      { step := .readOn false, dashboard, stage := stage.note [.unknownCommand input] }

end WalletScreens.Session

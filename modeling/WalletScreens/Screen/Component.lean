import WalletScreens.Screen.Page

/-!
Every component of the library as one type.
-/

namespace WalletScreens.Screen

open Wallet

inductive Component where
  | infoLine (line : InfoLine)
  | headline (headline : Headline)
  | subheading (subheading : Subheading)
  | button (button : Button)
  | buttonRow (row : ButtonRow)
  | errorCard (card : ErrorCard)
  | divider (divider : Divider)
  | logo (logo : Logo)
  | header (header : Header)
  | addressCard (card : AddressCard)
  | addAccountCard (card : AddAccountCard)
  | accountCards (list : AccountCards)
  | txCard (card : TxCard)
  | votingCard (card : VotingCard)
  | formField (field : FormField)
  | sendPage (page : SendPage)
  | receivePage (page : ReceivePage)
  | votingPage (page : VotingPage)
  | dashboard (dashboard : Dashboard)
  | activePage (dashboard : Dashboard)
  | pageScreen (dashboard : Dashboard)
deriving DecidableEq, Repr

def Component.render (component : Component) (canvas : Canvas) : Except RenderFault String :=
  match component with
  | .infoLine part => part.render canvas
  | .headline part => part.render canvas
  | .subheading part => part.render canvas
  | .button part => part.render canvas
  | .buttonRow part => part.render canvas
  | .errorCard part => part.render canvas
  | .divider part => part.render canvas
  | .logo part => part.render canvas
  | .header part => part.render canvas
  | .addressCard part => part.render canvas
  | .addAccountCard part => part.render canvas
  | .accountCards part => part.render canvas
  | .txCard part => part.render canvas
  | .votingCard part => part.render canvas
  | .formField part => part.render canvas
  | .sendPage page => page.render canvas
  | .receivePage page => page.render canvas
  | .votingPage page => page.render canvas
  | .dashboard state => renderDashboard state canvas
  | .activePage state => renderActivePage state canvas
  | .pageScreen state => renderPageScreen state canvas

/-- All styles of the library are in templates, so no component asks the terminal while it is
drawn. -/
theorem Component.render_terminal (component : Component) (canvas : Canvas) (terminal : Bool) :
    component.render { canvas with terminal } = component.render canvas := by
  cases component <;> rfl

end WalletScreens.Screen

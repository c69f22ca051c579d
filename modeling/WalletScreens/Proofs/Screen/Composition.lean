import WalletScreens.Screen.Component

/-!
Screens without templates.

What a component says, put together by hand: literal text, pieces written in a named style, and
conditions on the component's own fields.  Nothing here looks into a text.
-/

namespace WalletScreens.Screen

open Theme Wallet

section

variable (style : String → String → String)

def InfoLine.composed (line : InfoLine) : String :=
  style "info.label" line.label ++ "\n" ++
  style (if line.large then "info.large" else "info.content") line.content

def Headline.composed (headline : Headline) : String :=
  style "headline" headline.text

def Subheading.composed (subheading : Subheading) : String :=
  style "h5" subheading.text

def Button.composed (button : Button) : String :=
  "[ " ++ style (if button.disabled then "button.disabled" else "button") button.label ++ " ]"

def ButtonRow.composed (row : ButtonRow) : String :=
  Text.padLeft ("  ".intercalate (row.buttons.map (·.composed style))) row.width

/-- The message itself has no style. -/
def ErrorCard.composed (card : ErrorCard) : String :=
  let line := rule '─' (Text.measure card.message + 2)
  let side := style "error.border" "│"
  style "error.border" ("┌" ++ line ++ "┐") ++ "\n" ++
  side ++ " " ++ card.message ++ " " ++ side ++ "\n" ++
  style "error.border" ("└" ++ line ++ "┘")

def Divider.composed (divider : Divider) : String :=
  style "divider" (rule '─' divider.width)

def Logo.composed (logo : Logo) : String :=
  let name := if logo.large then "headline" else "logo"
  style "logo" "◆" ++ " " ++ style name "GO" ++ "\n  " ++ style name "LOSOVANIE"

/-- An empty value gives way to the placeholder. -/
def FormField.composed (field : FormField) : String :=
  style "field.label" field.label ++ (if field.required then style "error" " *" else "") ++ "\n" ++
  style "field.label" "›" ++ " " ++
  if field.value = "" then style "field.placeholder" field.placeholder
  else style "field.value" field.value

/-- Each line starts with the marker, which is blank on an inactive card. -/
def AddressCard.composed (card : AddressCard) : String :=
  let marker := style "card.marker" (if card.active then "▌" else " ") ++ " "
  let columns := card.width - 2
  marker ++ style "card.name" (Text.truncate card.name columns) ++ "\n" ++
  marker ++ style "card.address" (Text.truncate card.address columns) ++ "\n" ++
  marker ++ style "card.coins" (toString card.coins.toNat ++ " coins") ++ "  " ++
    style "card.votes" (toString card.votes.toNat ++ " votes") ++
  if card.active then "\n" ++ marker ++ style "card.action" AddressCard.actions else ""

def AddAccountCard.composed (card : AddAccountCard) : String :=
  "  " ++ style "card.add" ("+ " ++ card.label)

def AccountCards.composed (list : AccountCards) : String :=
  blocks (list.cards.map (·.composed style) ++ [AddAccountCard.composed style {}])

def TxCard.composed (card : TxCard) : String :=
  let incoming := card.kind.isIncoming
  style "tx.icon" card.kind.icon ++ " " ++
    style "info.label" (if incoming then "From" else "To") ++ "\n  " ++
  style "info.content" (Text.padRight (Text.truncate card.name card.nameWidth) card.nameWidth) ++
    " " ++ style (if incoming then "tx.in" else "tx.out") card.amount

def VotingCard.composed (card : VotingCard) : String :=
  InfoLine.composed style
    { label := "Vote id", content := Text.truncate card.vote.id card.width } ++ "\n" ++
  InfoLine.composed style
    { label := "My votes", content := toString card.vote.held.toNat } ++ "\n" ++
  style "divider" (rule '─' card.width)

end

section

variable (style : String → String → String) (mode : Mode)

/-- The title has a block of its own, unless its line is empty. -/
def Header.composed (header : Header) : String :=
  Logo.composed style {} ++ "\n" ++
  style "mode" (Header.icon mode) ++ " " ++ style "mode" (Header.modeLabel mode) ++ "  " ++
    style "text.secondary" (header.heading.toggleHint.getD Header.defaultHint) ++
  match header.heading.title with
  | some title =>
      let line := Headline.composed style ⟨title⟩
      if line = "" then "" else "\n\n" ++ line
  | none => ""

def SendPage.composed (page : SendPage) : String :=
  blocks
    [Headline.composed style ⟨"Send"⟩,
      FormField.composed style
        { label := "Receiver address", placeholder := "hex string of 33 characters"
          value := page.receiver },
      FormField.composed style
        { label := "Amount", placeholder := "integer", value := page.amount },
      ButtonRow.composed style ⟨[{ label := "Send" }], page.width⟩]

def ReceivePage.composed (page : ReceivePage) : String :=
  blocks
    [Headline.composed style ⟨"Receive"⟩,
      InfoLine.composed style
        { label := "Your address for receiving coins and joining votes", content := page.address
          large := true },
      Button.composed style { label := "Copy" },
      Subheading.composed style ⟨"Request coins"⟩,
      FormField.composed style
        { label := "Amount", placeholder := "integer", value := page.amount },
      ButtonRow.composed style ⟨[{ label := "Request" }], page.width⟩]

def VotingPage.composed (page : VotingPage) : String :=
  blocks
    (Headline.composed style ⟨"Votes"⟩ ::
      FormField.composed style
        { label := "Enter vote id", placeholder := "hex string of 32 characters"
          value := page.voteId } ::
      ButtonRow.composed style ⟨[{ label := "Open" }], page.width⟩ ::
      page.votes.map fun vote => VotingCard.composed style ⟨vote, page.width⟩)

def composedActivePage (dashboard : Dashboard) : String :=
  match dashboard.page with
  | .send =>
      SendPage.composed style
        ⟨dashboard.forms.receiver, dashboard.forms.sendAmount, dashboard.width⟩
  | .receive =>
      ReceivePage.composed style
        ⟨dashboard.address, dashboard.forms.receiveAmount, dashboard.width⟩
  | .voting =>
      VotingPage.composed style ⟨dashboard.forms.voteId, dashboard.votes, dashboard.width⟩

def composedDashboard (dashboard : Dashboard) : String :=
  let divider := Divider.composed style ⟨dashboard.width⟩
  blocks
    [Header.composed style mode ⟨dashboard.heading⟩, divider,
      AccountCards.composed style ⟨dashboard.selection, dashboard.accountColumns⟩, divider,
      composedActivePage style dashboard]

def composedPageScreen (dashboard : Dashboard) : String :=
  blocks
    [Header.composed style mode ⟨dashboard.heading⟩, Divider.composed style ⟨dashboard.width⟩,
      composedActivePage style dashboard]

/-- What a component says, written in the styles of a theme of some mode. -/
def Component.composed (component : Component) : String :=
  match component with
  | .infoLine part => part.composed style
  | .headline part => part.composed style
  | .subheading part => part.composed style
  | .button part => part.composed style
  | .buttonRow part => part.composed style
  | .errorCard part => part.composed style
  | .divider part => part.composed style
  | .logo part => part.composed style
  | .header part => part.composed style mode
  | .addressCard part => part.composed style
  | .addAccountCard part => part.composed style
  | .accountCards part => part.composed style
  | .txCard part => part.composed style
  | .votingCard part => part.composed style
  | .formField part => part.composed style
  | .sendPage page => page.composed style
  | .receivePage page => page.composed style
  | .votingPage page => page.composed style
  | .dashboard state => composedDashboard style mode state
  | .activePage state => composedActivePage style state
  | .pageScreen state => composedPageScreen style mode state

end

/-- The most columns that a component has its templates cut a text to. -/
def Component.columns : Component → Nat
  | .addressCard card => card.width
  | .accountCards list => list.width
  | .txCard card => card.width
  | .dashboard state => state.accountColumns
  | _ => 0

end WalletScreens.Screen

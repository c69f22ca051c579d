import WalletScreens.Screen.Card

/-!
Whole pages and the screens made of them.
-/

namespace WalletScreens.Screen

open Wallet

def blocks (parts : List String) : String :=
  "\n\n".intercalate parts

structure SendPage where
  receiver : String := ""
  amount : String := ""
  width : Nat := defaultWidth
deriving DecidableEq, Repr

def SendPage.render (page : SendPage) (canvas : Canvas) : Except RenderFault String := do
  let title ← (Headline.mk "Send").render canvas
  let receiver ← FormField.render
    { label := "Receiver address", placeholder := "hex string of 33 characters"
      value := page.receiver } canvas
  let amount ← FormField.render
    { label := "Amount", placeholder := "integer", value := page.amount } canvas
  let buttons ← (ButtonRow.mk [{ label := "Send" }] page.width).render canvas
  return blocks [title, receiver, amount, buttons]

structure ReceivePage where
  address : String
  amount : String := ""
  width : Nat := defaultWidth
deriving DecidableEq, Repr

def ReceivePage.render (page : ReceivePage) (canvas : Canvas) : Except RenderFault String := do
  let title ← (Headline.mk "Receive").render canvas
  let address ← InfoLine.render
    { label := "Your address for receiving coins and joining votes", content := page.address
      large := true } canvas
  let copy ← Button.render { label := "Copy" } canvas
  let section_ ← (Subheading.mk "Request coins").render canvas
  let amount ← FormField.render
    { label := "Amount", placeholder := "integer", value := page.amount } canvas
  let buttons ← (ButtonRow.mk [{ label := "Request" }] page.width).render canvas
  return blocks [title, address, copy, section_, amount, buttons]

structure VotingPage where
  voteId : String := ""
  votes : List Vote := []
  width : Nat := defaultWidth
deriving DecidableEq, Repr

def VotingPage.render (page : VotingPage) (canvas : Canvas) : Except RenderFault String := do
  let title ← (Headline.mk "Votes").render canvas
  let voteId ← FormField.render
    { label := "Enter vote id", placeholder := "hex string of 32 characters"
      value := page.voteId } canvas
  let buttons ← (ButtonRow.mk [{ label := "Open" }] page.width).render canvas
  let cards ← page.votes.mapM fun vote => (VotingCard.mk vote page.width).render canvas
  return blocks (title :: voteId :: buttons :: cards)

def renderActivePage (dashboard : Dashboard) (canvas : Canvas) : Except RenderFault String :=
  match dashboard.page with
  | .send =>
      SendPage.render ⟨dashboard.forms.receiver, dashboard.forms.sendAmount, dashboard.width⟩
        canvas
  | .receive =>
      ReceivePage.render ⟨dashboard.address, dashboard.forms.receiveAmount, dashboard.width⟩
        canvas
  | .voting =>
      VotingPage.render ⟨dashboard.forms.voteId, dashboard.votes, dashboard.width⟩ canvas

def renderDashboard (dashboard : Dashboard) (canvas : Canvas) : Except RenderFault String := do
  let divider : Divider := ⟨dashboard.width⟩
  let header ← (Header.mk dashboard.heading).render canvas
  let above ← divider.render canvas
  let accounts ← (AccountCards.mk dashboard.selection dashboard.accountColumns).render canvas
  let below ← divider.render canvas
  let page ← renderActivePage dashboard canvas
  return blocks [header, above, accounts, below, page]

def renderPageScreen (dashboard : Dashboard) (canvas : Canvas) : Except RenderFault String := do
  let header ← (Header.mk dashboard.heading).render canvas
  let divider ← (Divider.mk dashboard.width).render canvas
  let page ← renderActivePage dashboard canvas
  return blocks [header, divider, page]

end WalletScreens.Screen

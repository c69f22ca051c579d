import WalletScreens.Proofs.Scope.Composite
import WalletScreens.Screen.Component

/-!
What the components of the library are composed of.

A page draws its parts one after the other and puts them together.  A header and a card of a vote
have a template of their own besides, which takes in what their parts have drawn, so it comes last.
-/

namespace WalletScreens.Scope

open Screen Wallet

/-- Draws on the canvas as it is, and asks for nothing. -/
def Script.ofDraw (draw : Canvas → Except RenderFault String) : Script :=
  .look fun canvas => .finish (draw canvas)

namespace Composite

/-- A component with nothing below it. -/
def leaf (draw : Canvas → Except RenderFault String) : Composite :=
  .own (.ofDraw draw) .done

/-- On every canvas a composite draws just that, and asks for nothing. -/
structure Draws (composite : Composite) (draw : Canvas → Except RenderFault String) : Prop where
  drawn : ∀ canvas, composite.script.drawnOn canvas = draw canvas
  silent : ∀ canvas, composite.script.requests canvas = 0

namespace Draws

variable {part : Composite} {draw : Canvas → Except RenderFault String}
  {next : String → Composite} {rest : String → Canvas → Except RenderFault String}

theorem done (text : String) : (Composite.done text).Draws fun _ => .ok text :=
  ⟨fun _ => rfl, fun _ => rfl⟩

theorem child (first : part.Draws draw) (later : ∀ text, (next text).Draws (rest text)) :
    (Composite.child part next).Draws fun canvas =>
      draw canvas >>= fun text => rest text canvas := by
  constructor <;> intro canvas
  · simp only [script, Script.drawnOn, first.drawn canvas]
    cases draw canvas with
    | error fault => rfl
    | ok text => exact (later text).drawn canvas
  · simp only [script, Script.requests, first.drawn canvas, first.silent canvas, Nat.zero_add]
    cases draw canvas with
    | error fault => rfl
    | ok text => exact (later text).silent canvas

theorem leaf (draw : Canvas → Except RenderFault String) : (Composite.leaf draw).Draws draw := by
  constructor <;> intro canvas <;>
    simp only [Composite.leaf, script, Script.ofDraw, Script.drawnOn, Script.requests] <;>
    cases draw canvas <;> rfl

theorem each {α : Type} {parts : List α} {composite : α → Composite}
    {draw : α → Canvas → Except RenderFault String}
    {next : List String → Composite} {rest : List String → Canvas → Except RenderFault String}
    (draws : ∀ part ∈ parts, (composite part).Draws (draw part))
    (later : ∀ texts, (next texts).Draws (rest texts)) :
    (Composite.each (parts.map composite) next).Draws fun canvas =>
      (parts.mapM fun part => draw part canvas) >>= fun texts => rest texts canvas := by
  induction parts generalizing next rest with
  | nil => exact later []
  | cons part others ih =>
      rw [List.forall_mem_cons] at draws
      have whole := child draws.1 fun text => ih draws.2 fun texts => later (text :: texts)
      simp only [List.mapM_cons, bind_assoc, pure_bind]
      exact whole

end Draws

end Composite

end WalletScreens.Scope

namespace WalletScreens.Screen

open Scope Wallet

def ButtonRow.composite (row : ButtonRow) : Composite :=
  .each (row.buttons.map fun button => .leaf button.render) fun buttons =>
    .done (Text.padLeft ("  ".intercalate buttons) row.width)

def AccountCards.composite (list : AccountCards) : Composite :=
  .each (list.cards.map fun card => .leaf card.render) fun cards =>
    .child (.leaf (AddAccountCard.render {})) fun last =>
      .done ("\n\n".intercalate (cards ++ [last]))

def VotingCard.composite (card : VotingCard) : Composite :=
  .child (.leaf card.idLine.render) fun idLine =>
    .child (.leaf card.votesLine.render) fun votesLine =>
      .own (.ofDraw (card.frame idLine votesLine)) .done

/-- A header from its logo on. -/
def Header.compositeUnder (header : Header) (title : Json.Value) : Composite :=
  .child (.leaf (Logo.render {})) fun logo => .own (.ofDraw (header.frame title logo)) .done

def Header.composite (header : Header) : Composite :=
  match header.heading.title with
  | some title =>
      .child (.leaf (Headline.mk title).render) fun line => header.compositeUnder (.text line)
  | none => header.compositeUnder .null

def SendPage.composite (page : SendPage) : Composite :=
  .child (.leaf (Headline.mk "Send").render) fun title =>
    .child (.leaf (FormField.render
      { label := "Receiver address", placeholder := "hex string of 33 characters"
        value := page.receiver })) fun receiver =>
      .child (.leaf (FormField.render
        { label := "Amount", placeholder := "integer", value := page.amount })) fun amount =>
        .child (ButtonRow.mk [{ label := "Send" }] page.width).composite fun buttons =>
          .done (blocks [title, receiver, amount, buttons])

def ReceivePage.composite (page : ReceivePage) : Composite :=
  .child (.leaf (Headline.mk "Receive").render) fun title =>
    .child (.leaf (InfoLine.render
      { label := "Your address for receiving coins and joining votes", content := page.address
        large := true })) fun address =>
      .child (.leaf (Button.render { label := "Copy" })) fun copy =>
        .child (.leaf (Subheading.mk "Request coins").render) fun request =>
          .child (.leaf (FormField.render
            { label := "Amount", placeholder := "integer", value := page.amount })) fun amount =>
            .child (ButtonRow.mk [{ label := "Request" }] page.width).composite fun buttons =>
              .done (blocks [title, address, copy, request, amount, buttons])

def VotingPage.composite (page : VotingPage) : Composite :=
  .child (.leaf (Headline.mk "Votes").render) fun title =>
    .child (.leaf (FormField.render
      { label := "Enter vote id", placeholder := "hex string of 32 characters"
        value := page.voteId })) fun voteId =>
      .child (ButtonRow.mk [{ label := "Open" }] page.width).composite fun buttons =>
        .each (page.votes.map fun vote => (VotingCard.mk vote page.width).composite) fun cards =>
          .done (blocks (title :: voteId :: buttons :: cards))

def compositeActivePage (dashboard : Dashboard) : Composite :=
  match dashboard.page with
  | .send =>
      SendPage.composite ⟨dashboard.forms.receiver, dashboard.forms.sendAmount, dashboard.width⟩
  | .receive =>
      ReceivePage.composite ⟨dashboard.address, dashboard.forms.receiveAmount, dashboard.width⟩
  | .voting => VotingPage.composite ⟨dashboard.forms.voteId, dashboard.votes, dashboard.width⟩

def compositeDashboard (dashboard : Dashboard) : Composite :=
  let divider : Divider := ⟨dashboard.width⟩
  .child (Header.mk dashboard.heading).composite fun header =>
    .child (.leaf divider.render) fun above =>
      .child (AccountCards.mk dashboard.selection dashboard.accountColumns).composite
        fun accounts =>
        .child (.leaf divider.render) fun below =>
          .child (compositeActivePage dashboard) fun page =>
            .done (blocks [header, above, accounts, below, page])

def compositePageScreen (dashboard : Dashboard) : Composite :=
  .child (Header.mk dashboard.heading).composite fun header =>
    .child (.leaf (Divider.mk dashboard.width).render) fun divider =>
      .child (compositeActivePage dashboard) fun page => .done (blocks [header, divider, page])

def Component.composite : Component → Composite
  | .buttonRow part => part.composite
  | .header part => part.composite
  | .accountCards part => part.composite
  | .votingCard part => part.composite
  | .sendPage page => page.composite
  | .receivePage page => page.composite
  | .votingPage page => page.composite
  | .dashboard state => compositeDashboard state
  | .activePage state => compositeActivePage state
  | .pageScreen state => compositePageScreen state
  | component => .leaf component.render

theorem ButtonRow.draws_composite (row : ButtonRow) : row.composite.Draws row.render :=
  .each (fun button _ => .leaf button.render) fun _ => .done _

theorem AccountCards.draws_composite (list : AccountCards) :
    list.composite.Draws list.render :=
  .each (fun card _ => .leaf card.render) fun _ => .child (.leaf _) fun _ => .done _

theorem VotingCard.draws_composite (card : VotingCard) : card.composite.Draws card.render := by
  have framed (idLine votesLine : String) :
      (Composite.own (.ofDraw (card.frame idLine votesLine)) .done).Draws
        (card.frame idLine votesLine) :=
    .leaf _
  exact .child (.leaf _) fun idLine => .child (.leaf _) fun votesLine => framed idLine votesLine

theorem Header.draws_composite (header : Header) : header.composite.Draws header.render := by
  have under (title : Json.Value) : (header.compositeUnder title).Draws fun canvas =>
      Logo.render {} canvas >>= fun logo => header.frame title logo canvas :=
    .child (.leaf _) fun logo => .leaf (header.frame title logo)
  unfold composite render
  cases header.heading.title with
  | none => exact under .null
  | some title =>
      have whole := Composite.Draws.child (.leaf (Headline.mk title).render) fun line =>
        under (.text line)
      simpa only [bind_assoc, pure_bind] using whole

theorem SendPage.draws_composite (page : SendPage) : page.composite.Draws page.render :=
  .child (.leaf _) fun _ => .child (.leaf _) fun _ => .child (.leaf _) fun _ =>
    .child (ButtonRow.draws_composite _) fun _ => .done _

theorem ReceivePage.draws_composite (page : ReceivePage) : page.composite.Draws page.render :=
  .child (.leaf _) fun _ => .child (.leaf _) fun _ => .child (.leaf _) fun _ =>
    .child (.leaf _) fun _ => .child (.leaf _) fun _ =>
      .child (ButtonRow.draws_composite _) fun _ => .done _

theorem VotingPage.draws_composite (page : VotingPage) : page.composite.Draws page.render :=
  .child (.leaf _) fun _ => .child (.leaf _) fun _ =>
    .child (ButtonRow.draws_composite _) fun _ =>
      .each (fun vote _ => VotingCard.draws_composite ⟨vote, page.width⟩) fun _ => .done _

theorem draws_compositeActivePage (dashboard : Dashboard) :
    (compositeActivePage dashboard).Draws (renderActivePage dashboard) := by
  unfold compositeActivePage renderActivePage
  cases dashboard.page with
  | send => exact SendPage.draws_composite _
  | receive => exact ReceivePage.draws_composite _
  | voting => exact VotingPage.draws_composite _

theorem draws_compositeDashboard (dashboard : Dashboard) :
    (compositeDashboard dashboard).Draws (renderDashboard dashboard) :=
  .child (Header.draws_composite _) fun _ => .child (.leaf _) fun _ =>
    .child (AccountCards.draws_composite _) fun _ => .child (.leaf _) fun _ =>
      .child (draws_compositeActivePage dashboard) fun _ => .done _

theorem draws_compositePageScreen (dashboard : Dashboard) :
    (compositePageScreen dashboard).Draws (renderPageScreen dashboard) :=
  .child (Header.draws_composite _) fun _ => .child (.leaf _) fun _ =>
    .child (draws_compositeActivePage dashboard) fun _ => .done _

/-- Drawing a component is drawing what it is composed of. -/
theorem Component.draws_composite (component : Component) :
    component.composite.Draws component.render := by
  cases component with
  | buttonRow part => exact part.draws_composite
  | header part => exact part.draws_composite
  | accountCards part => exact part.draws_composite
  | votingCard part => exact part.draws_composite
  | sendPage page => exact page.draws_composite
  | receivePage page => exact page.draws_composite
  | votingPage page => exact page.draws_composite
  | dashboard state => exact draws_compositeDashboard state
  | activePage state => exact draws_compositeActivePage state
  | pageScreen state => exact draws_compositePageScreen state
  | _ => exact .leaf _

end WalletScreens.Screen

import WalletScreens.Proofs.Screen.Composition
import WalletScreens.Proofs.Screen.Reading
import WalletScreens.Proofs.Template.Evaluation

/-!
Screens are what their components say.

On a canvas with the built-in templates and its own theme provided, every component draws what it
is composed of, and drawing never fails.
-/

namespace WalletScreens.Screen

open Layout Template Text Wallet

/-- A canvas with the built-in templates, whose own theme is the one that is provided innermost. -/
structure Canvas.Standard (canvas : Canvas) : Prop where
  library : canvas.renderer.library = Layout.builtIn
  provided : canvas.ambient.head? = some canvas.theme

variable {canvas : Canvas}

/-- Where templates are rendered on such a canvas. -/
def Canvas.surface (canvas : Canvas) : Surface where
  rendition := canvas.renderer.rendition
  styles := some canvas.theme.styles

/-- The text in a named style of that theme, as the templates write it. -/
def Canvas.write (canvas : Canvas) (name text : String) : String :=
  canvas.theme.styles.write canvas.renderer.rendition name text

/-- No built-in template escapes what it emits. -/
theorem escapes_of_lookup {name : String} {nodes : List Node}
    (found : Layout.builtIn.lookup name = some nodes) : Library.escapes name = false := by
  obtain ⟨before, after, split, -⟩ := List.lookup_eq_some_iff.mp found
  have known : name ∈ Layout.builtIn.map Prod.fst := by simp [split]
  have plain : ∀ name ∈ Layout.builtIn.map Prod.fst, Library.escapes name = false := by decide
  exact plain name known

theorem Canvas.Standard.template (standard : canvas.Standard) {name : String} {nodes : List Node}
    (found : Layout.builtIn.lookup name = some nodes) (fields : List (String × Json.Value)) :
    canvas.template name fields =
      (Template.render canvas.surface nodes (.record fields)).mapError .template := by
  rw [Canvas.template, Renderer.render, Library.renderNamed, standard.library, found,
    Renderer.surface, standard.provided]
  dsimp only
  rw [escapes_of_lookup found]
  rfl

@[simp] theorem applyNamed_surface_style (subject name : Template.Value) :
    Filter.applyNamed canvas.surface "style" subject [(false, name)] [] =
      .ok (canvas.write name.toText subject.toText) :=
  Filter.applyNamed_style rfl subject name

@[simp] theorem escapes_surface : canvas.surface.escapes = false := rfl

attribute [simp] quoted inStyle cutTo

variable (standard : canvas.Standard)
include standard

theorem InfoLine.render_eq (line : InfoLine) :
    line.render canvas = .ok (line.composed canvas.write) := by
  rw [InfoLine.render, standard.template rfl]
  simp [Reading.infoLine, composed, String.append_assoc]

theorem Headline.render_eq (headline : Headline) :
    headline.render canvas = .ok (headline.composed canvas.write) := by
  rw [Headline.render, standard.template rfl]
  simp [Reading.headline, composed]

theorem Subheading.render_eq (subheading : Subheading) :
    subheading.render canvas = .ok (subheading.composed canvas.write) := by
  rw [Subheading.render, standard.template rfl]
  simp [Reading.subheading, composed]

theorem Button.render_eq (button : Button) :
    button.render canvas = .ok (button.composed canvas.write) := by
  rw [Button.render, standard.template rfl]
  simp [Reading.button, composed, String.append_assoc]

theorem ErrorCard.render_eq (card : ErrorCard) :
    card.render canvas = .ok (card.composed canvas.write) := by
  rw [ErrorCard.render, standard.template rfl]
  simp [Reading.errorCard, composed, String.append_assoc]

theorem Divider.render_eq (divider : Divider) :
    divider.render canvas = .ok (divider.composed canvas.write) := by
  rw [Divider.render, standard.template rfl]
  simp [Reading.divider, composed]

theorem Logo.render_eq (logo : Logo) :
    logo.render canvas = .ok (logo.composed canvas.write) := by
  rw [Logo.render, standard.template rfl]
  simp [Reading.logoGroup, composed, String.append_assoc]

theorem FormField.render_eq (field : FormField) :
    field.render canvas = .ok (field.composed canvas.write) := by
  rw [FormField.render, standard.template rfl]
  cases required : field.required <;> by_cases empty : field.value = "" <;>
    simp [Reading.formField, composed, required, empty, String.append_assoc]

theorem AddressCard.render_eq (card : AddressCard) (fits : card.width ≤ wordLimit) :
    card.render canvas = .ok (card.composed canvas.write) := by
  have columns : card.width - 2 ≤ wordLimit := by omega
  rw [AddressCard.render, standard.template rfl]
  cases active : card.active <;>
    simp [Reading.addressCard, markerNodes, composed, active, Filter.applyNamed_truncateAt columns,
      String.append_assoc]

theorem AddAccountCard.render_eq (card : AddAccountCard) :
    card.render canvas = .ok (card.composed canvas.write) := by
  rw [AddAccountCard.render, standard.template rfl]
  simp [Reading.addAccountCard, composed]

theorem TxCard.render_eq (card : TxCard) (fits : card.width ≤ wordLimit) :
    card.render canvas = .ok (card.composed canvas.write) := by
  have columns : card.nameWidth ≤ wordLimit := by unfold nameWidth; omega
  rw [TxCard.render, standard.template rfl]
  simp [Reading.txCard, composed, Filter.applyNamed_truncateAt columns,
    Filter.applyNamed_padRight columns, String.append_assoc]

theorem VotingCard.render_eq (card : VotingCard) :
    card.render canvas = .ok (card.composed canvas.write) := by
  simp only [VotingCard.render, InfoLine.render_eq standard, except_bind_ok, frame, idLine,
    votesLine]
  rw [standard.template rfl]
  simp [Reading.votingCard, composed, String.append_assoc]

theorem Header.render_eq (header : Header) :
    header.render canvas = .ok (header.composed canvas.write canvas.mode) := by
  cases titled : header.heading.title with
  | none =>
      simp only [Header.render, titled, Logo.render_eq standard, except_bind_ok, except_pure, frame]
      rw [standard.template rfl]
      simp [Reading.header, composed, titled, String.append_assoc]
  | some title =>
      simp only [Header.render, titled, Logo.render_eq standard, Headline.render_eq standard,
        except_bind_ok, except_pure, frame]
      rw [standard.template rfl]
      by_cases empty : Headline.composed canvas.write ⟨title⟩ = "" <;>
        simp [Reading.header, composed, titled, empty, String.append_assoc]

omit standard in
theorem mapM_eq_ok {α : Type} {draw : α → Except RenderFault String} {drawn : α → String}
    (parts : List α) (draws : ∀ part ∈ parts, draw part = .ok (drawn part)) :
    parts.mapM draw = .ok (parts.map drawn) := by
  induction parts with
  | nil => rfl
  | cons part rest ih =>
      have others := ih fun other member => draws other (List.mem_cons_of_mem _ member)
      rw [List.mapM_cons, draws part List.mem_cons_self, others]
      rfl

theorem ButtonRow.render_eq (row : ButtonRow) :
    row.render canvas = .ok (row.composed canvas.write) := by
  rw [ButtonRow.render, mapM_eq_ok _ fun button _ => Button.render_eq standard button]
  rfl

theorem AccountCards.render_eq (list : AccountCards) (fits : list.width ≤ wordLimit) :
    list.render canvas = .ok (list.composed canvas.write) := by
  have cards : ∀ card ∈ list.cards, card.render canvas = .ok (card.composed canvas.write) := by
    intro card member
    obtain ⟨account, -, rfl⟩ := List.mem_map.mp member
    exact AddressCard.render_eq standard _ fits
  rw [AccountCards.render, mapM_eq_ok _ cards, AddAccountCard.render_eq standard]
  rfl

theorem SendPage.render_eq (page : SendPage) :
    page.render canvas = .ok (page.composed canvas.write) := by
  simp only [SendPage.render, Headline.render_eq standard, FormField.render_eq standard,
    ButtonRow.render_eq standard, except_bind_ok]
  rfl

theorem ReceivePage.render_eq (page : ReceivePage) :
    page.render canvas = .ok (page.composed canvas.write) := by
  simp only [ReceivePage.render, Headline.render_eq standard, InfoLine.render_eq standard,
    Button.render_eq standard, Subheading.render_eq standard, FormField.render_eq standard,
    ButtonRow.render_eq standard, except_bind_ok]
  rfl

theorem VotingPage.render_eq (page : VotingPage) :
    page.render canvas = .ok (page.composed canvas.write) := by
  rw [VotingPage.render, Headline.render_eq standard, FormField.render_eq standard,
    ButtonRow.render_eq standard,
    mapM_eq_ok _ fun vote _ => VotingCard.render_eq standard ⟨vote, page.width⟩]
  rfl

theorem renderActivePage_eq (dashboard : Dashboard) :
    renderActivePage dashboard canvas = .ok (composedActivePage canvas.write dashboard) := by
  unfold renderActivePage composedActivePage
  cases dashboard.page with
  | send => exact SendPage.render_eq standard _
  | receive => exact ReceivePage.render_eq standard _
  | voting => exact VotingPage.render_eq standard _

theorem renderDashboard_eq (dashboard : Dashboard) (fits : dashboard.accountColumns ≤ wordLimit) :
    renderDashboard dashboard canvas =
      .ok (composedDashboard canvas.write canvas.mode dashboard) := by
  rw [renderDashboard, Header.render_eq standard, Divider.render_eq standard,
    AccountCards.render_eq standard _ fits, renderActivePage_eq standard]
  rfl

theorem renderPageScreen_eq (dashboard : Dashboard) :
    renderPageScreen dashboard canvas =
      .ok (composedPageScreen canvas.write canvas.mode dashboard) := by
  rw [renderPageScreen, Header.render_eq standard, Divider.render_eq standard,
    renderActivePage_eq standard]
  rfl

/-- A component draws what it is composed of. -/
theorem Component.render_eq (component : Component) (fits : component.columns ≤ wordLimit) :
    component.render canvas = .ok (component.composed canvas.write canvas.mode) := by
  cases component with
  | infoLine part => exact part.render_eq standard
  | headline part => exact part.render_eq standard
  | subheading part => exact part.render_eq standard
  | button part => exact part.render_eq standard
  | buttonRow part => exact part.render_eq standard
  | errorCard part => exact part.render_eq standard
  | divider part => exact part.render_eq standard
  | logo part => exact part.render_eq standard
  | header part => exact part.render_eq standard
  | addressCard part => exact part.render_eq standard fits
  | addAccountCard part => exact part.render_eq standard
  | accountCards part => exact part.render_eq standard fits
  | txCard part => exact part.render_eq standard fits
  | votingCard part => exact part.render_eq standard
  | formField part => exact part.render_eq standard
  | sendPage page => exact page.render_eq standard
  | receivePage page => exact page.render_eq standard
  | votingPage page => exact page.render_eq standard
  | dashboard state => exact renderDashboard_eq standard state fits
  | activePage state => exact renderActivePage_eq standard state
  | pageScreen state => exact renderPageScreen_eq standard state

end WalletScreens.Screen

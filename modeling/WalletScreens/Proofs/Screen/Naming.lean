import WalletScreens.Proofs.Scope.Rendering
import WalletScreens.Proofs.Theme.Writing

/-!
The names that the screens write in.

All of them are names of the sheet that every theme has, so no screen is written in a style that a
theme does not know.
-/

namespace WalletScreens.Screen

open Style Theme Wallet

/-- What the component says hangs on what is written in the style of that name. -/
def Component.Requests (component : Component) (name : String) : Prop :=
  ∃ (mode : Mode) (first second : String → String → String),
    (∀ other, other ≠ name → first other = second other) ∧
      component.composed first mode ≠ component.composed second mode

section

variable {first second : String → String → String}
  (alike : ∀ name ∈ baseNames ++ partNames, first name = second name)
include alike

theorem InfoLine.composed_congr (line : InfoLine) : line.composed first = line.composed second := by
  have content := alike (if line.large then "info.large" else "info.content") (by split <;> decide)
  simp only [composed, alike "info.label" (by decide), content]

theorem Headline.composed_congr (headline : Headline) :
    headline.composed first = headline.composed second := by
  simp only [composed, alike "headline" (by decide)]

theorem Subheading.composed_congr (subheading : Subheading) :
    subheading.composed first = subheading.composed second := by
  simp only [composed, alike "h5" (by decide)]

theorem Button.composed_congr (button : Button) :
    button.composed first = button.composed second := by
  have label := alike (if button.disabled then "button.disabled" else "button")
    (by split <;> decide)
  simp only [composed, label]

theorem ButtonRow.composed_congr (row : ButtonRow) :
    row.composed first = row.composed second := by
  simp only [composed, Button.composed_congr alike]

theorem ErrorCard.composed_congr (card : ErrorCard) :
    card.composed first = card.composed second := by
  simp only [composed, alike "error.border" (by decide)]

theorem Divider.composed_congr (divider : Divider) :
    divider.composed first = divider.composed second := by
  simp only [composed, alike "divider" (by decide)]

theorem Logo.composed_congr (logo : Logo) : logo.composed first = logo.composed second := by
  have name := alike (if logo.large then "headline" else "logo") (by split <;> decide)
  simp only [composed, alike "logo" (by decide), name]

theorem FormField.composed_congr (field : FormField) :
    field.composed first = field.composed second := by
  simp only [composed, alike "field.label" (by decide), alike "error" (by decide),
    alike "field.placeholder" (by decide), alike "field.value" (by decide)]

theorem AddressCard.composed_congr (card : AddressCard) :
    card.composed first = card.composed second := by
  simp only [composed, alike "card.marker" (by decide), alike "card.name" (by decide),
    alike "card.address" (by decide), alike "card.coins" (by decide),
    alike "card.votes" (by decide), alike "card.action" (by decide)]

theorem AddAccountCard.composed_congr (card : AddAccountCard) :
    card.composed first = card.composed second := by
  simp only [composed, alike "card.add" (by decide)]

theorem AccountCards.composed_congr (list : AccountCards) :
    list.composed first = list.composed second := by
  simp only [composed, AddressCard.composed_congr alike, AddAccountCard.composed_congr alike]

theorem TxCard.composed_congr (card : TxCard) : card.composed first = card.composed second := by
  have amount := alike (if card.kind.isIncoming then "tx.in" else "tx.out") (by split <;> decide)
  simp only [composed, alike "tx.icon" (by decide), alike "info.label" (by decide),
    alike "info.content" (by decide), amount]

theorem VotingCard.composed_congr (card : VotingCard) :
    card.composed first = card.composed second := by
  simp only [composed, InfoLine.composed_congr alike, alike "divider" (by decide)]

theorem Header.composed_congr (header : Header) (mode : Mode) :
    header.composed first mode = header.composed second mode := by
  simp only [composed, Logo.composed_congr alike, Headline.composed_congr alike,
    alike "mode" (by decide), alike "text.secondary" (by decide)]

theorem SendPage.composed_congr (page : SendPage) :
    page.composed first = page.composed second := by
  simp only [composed, Headline.composed_congr alike, FormField.composed_congr alike,
    ButtonRow.composed_congr alike]

theorem ReceivePage.composed_congr (page : ReceivePage) :
    page.composed first = page.composed second := by
  simp only [composed, Headline.composed_congr alike, InfoLine.composed_congr alike,
    Button.composed_congr alike, Subheading.composed_congr alike, FormField.composed_congr alike,
    ButtonRow.composed_congr alike]

theorem VotingPage.composed_congr (page : VotingPage) :
    page.composed first = page.composed second := by
  simp only [composed, Headline.composed_congr alike, FormField.composed_congr alike,
    ButtonRow.composed_congr alike, VotingCard.composed_congr alike]

theorem composedActivePage_congr (dashboard : Dashboard) :
    composedActivePage first dashboard = composedActivePage second dashboard := by
  unfold composedActivePage
  cases dashboard.page with
  | send => exact SendPage.composed_congr alike _
  | receive => exact ReceivePage.composed_congr alike _
  | voting => exact VotingPage.composed_congr alike _

/-- A component writes in no names but those of the sheets of themes. -/
theorem Component.composed_congr (component : Component) (mode : Mode) :
    component.composed first mode = component.composed second mode := by
  cases component with
  | infoLine part => exact part.composed_congr alike
  | headline part => exact part.composed_congr alike
  | subheading part => exact part.composed_congr alike
  | button part => exact part.composed_congr alike
  | buttonRow part => exact part.composed_congr alike
  | errorCard part => exact part.composed_congr alike
  | divider part => exact part.composed_congr alike
  | logo part => exact part.composed_congr alike
  | header part => exact part.composed_congr alike mode
  | addressCard part => exact part.composed_congr alike
  | addAccountCard part => exact part.composed_congr alike
  | accountCards part => exact part.composed_congr alike
  | txCard part => exact part.composed_congr alike
  | votingCard part => exact part.composed_congr alike
  | formField part => exact part.composed_congr alike
  | sendPage page => exact page.composed_congr alike
  | receivePage page => exact page.composed_congr alike
  | votingPage page => exact page.composed_congr alike
  | dashboard state =>
      simp only [composed, composedDashboard, Header.composed_congr alike,
        Divider.composed_congr alike, AccountCards.composed_congr alike,
        composedActivePage_congr alike]
  | activePage state => exact composedActivePage_congr alike state
  | pageScreen state =>
      simp only [composed, composedPageScreen, Header.composed_congr alike,
        Divider.composed_congr alike, composedActivePage_congr alike]

end

theorem Component.Requests.known {component : Component} {name : String}
    (requests : component.Requests name) : name ∈ baseNames ++ partNames := by
  obtain ⟨mode, first, second, others, apart⟩ := requests
  by_contra unknown
  refine apart (component.composed_congr (fun other known => others other ?_) mode)
  rintro rfl
  exact unknown known

/-- In a theme every component says what it says whatever is put in place of a style without a
brush. -/
theorem Component.composed_writeOr (component : Component) (theme : Definition)
    (rendition : Rendition) (mode : Mode) (missing : String → String → String) :
    component.composed (theme.styles.write rendition) mode =
      component.composed (theme.styles.writeOr rendition missing) mode :=
  component.composed_congr (fun _ known => theme.write_eq_writeOr known rendition missing) mode

/-- The vocabulary of the screens is closed.  Whatever colours, sizes and weights a theme is made
of, it is sound and has a brush for each name that a component requests.  Under it components are
drawn without fault, and what stands for a style without a brush shows in none of them.  (A size is
only held against two bounds, so one that is infinite or no number is drawn as some finite one.) -/
theorem vocabulary_closed (mode : Mode) (palette : Palette) (typography : Typography) :
    let theme : Definition := { mode, palette, typography }
    theme.validate = .ok () ∧
      (∀ (component : Component) (name : String), component.Requests name →
        ∃ brush, theme.styles.resolve name = some brush) ∧
      ∀ output terminal, ∃ renderer, Renderer.withOutput output terminal = .ok renderer ∧
        ∀ (component : Component) (outer : List Definition) (now : Bool),
          component.columns ≤ Text.wordLimit →
            ∀ missing, component.render ⟨renderer, theme, theme :: outer, now⟩ =
              .ok (component.composed
                (theme.styles.writeOr (output.rendition terminal) missing) mode) := by
  intro theme
  refine ⟨theme.validate_eq_ok, fun component name requests => theme.exists_brush requests.known,
    fun output terminal =>
      ⟨⟨output, terminal, Layout.builtIn⟩, Scope.withOutput_eq output terminal, ?_⟩⟩
  intro component outer now fits missing
  have standard :
      Canvas.Standard ⟨⟨output, terminal, Layout.builtIn⟩, theme, theme :: outer, now⟩ := ⟨rfl, rfl⟩
  rw [← component.composed_writeOr]
  exact component.render_eq standard fits

/-- The content of a large line, under the colours of the dark theme in light mode. -/
theorem brush_of_large_line :
    let theme : Definition :=
      { mode := .light, palette := Catalog.darkPalette, typography := .app }
    let line : Component := .infoLine { label := "Address", content := "03b8", large := true }
    line.Requests "info.large" ∧ line.columns ≤ Text.wordLimit ∧
      (∃ brush, theme.styles.resolve "info.large" = some brush) ∧
      ∃ renderer, Renderer.withOutput .termDebug false = .ok renderer ∧
        line.render ⟨renderer, theme, [theme], false⟩ =
          .ok "[info.label]Address[/info.label]\n[info.large]03b8[/info.large]" := by
  intro theme line
  have requests : line.Requests "info.large" :=
    ⟨.light, fun _ text => text, fun name text => if name = "info.large" then "" else text,
      fun other apart => by simp [apart], by decide⟩
  have fits : line.columns ≤ Text.wordLimit := by decide
  obtain ⟨-, brush, drawn⟩ := vocabulary_closed .light Catalog.darkPalette .app
  obtain ⟨renderer, made, shown⟩ := drawn .termDebug false
  refine ⟨requests, fits, brush line _ requests, renderer, made, ?_⟩
  exact shown line [] false fits fun _ _ => ""

end WalletScreens.Screen

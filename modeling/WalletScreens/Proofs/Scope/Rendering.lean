import WalletScreens.Proofs.Screen.Coloring
import WalletScreens.Proofs.Screen.Refinement
import WalletScreens.Proofs.Style.Painting
import WalletScreens.Proofs.Theme.Vocabulary
import WalletScreens.Scope.Pass
import WalletScreens.Wallet.Demo

/-!
Passes over the components of the library.
-/

namespace WalletScreens.Scope

open Screen Style Theme Wallet

/-- There is a renderer for every output mode, since the themes of the catalog are sound and the
built-in templates can be read. -/
theorem withOutput_eq (output : OutputMode) (terminal : Bool) :
    Renderer.withOutput output terminal = .ok ⟨output, terminal, Layout.builtIn⟩ := by
  simp [Renderer.withOutput, Catalog.all, Definition.validate_eq_ok, Layout.library_eq]

/-- In a pass the theme of the scope is provided innermost, whatever is provided around it. -/
theorem standard_passCanvas {renderer : Renderer} (builtIn : renderer.library = Layout.builtIn)
    (stage : Stage) (scope : ScopeState) : (stage.passCanvas renderer scope).Standard :=
  ⟨builtIn, rfl⟩

theorem mode_passCanvas (renderer : Renderer) (stage : Stage) (scope : ScopeState) :
    (stage.passCanvas renderer scope).mode = scope.mode :=
  Catalog.resolve_mode scope.mode

theorem renderScope_written (output : OutputMode) (terminal : Bool) (stage : Stage)
    (scope : ScopeState) {component : Component} (fits : component.columns ≤ Text.wordLimit) :
    stage.renderScope ⟨output, terminal, Layout.builtIn⟩ scope (.component component) =
      (.ok ⟨scope.theme, scope.revision,
        component.composed (scope.theme.styles.write (output.rendition terminal)) scope.mode⟩,
        stage) := by
  have standard : (stage.passCanvas ⟨output, terminal, Layout.builtIn⟩ scope).Standard :=
    standard_passCanvas rfl stage scope
  rw [Stage.renderScope_component, component.render_eq standard fits, mode_passCanvas]
  rfl

/-- A pass over a component never fails.  It writes what the component is composed of, in the
styles of the scope's theme, and changes nothing.  A canvas styles the pieces alike, as long as the
terminal still says what it said when the renderer was made, or is not asked. -/
theorem pass_writes_composition (output : OutputMode) (terminal : Bool) :
    ∃ renderer, Renderer.withOutput output terminal = .ok renderer ∧ renderer.output = output ∧
      ∀ (stage : Stage) (scope : ScopeState) (component : Component),
        component.columns ≤ Text.wordLimit →
          let canvas := stage.passCanvas renderer scope
          let written :=
            component.composed (scope.theme.styles.write (output.rendition terminal)) scope.mode
          stage.renderScope renderer scope (.component component) =
              (.ok ⟨scope.theme, scope.revision, written⟩, stage) ∧
            ((output = .auto → stage.terminal = terminal) →
              written = component.composed canvas.style scope.mode) := by
  refine ⟨⟨output, terminal, Layout.builtIn⟩, withOutput_eq output terminal, rfl, ?_⟩
  intro stage scope component fits canvas written
  refine ⟨renderScope_written output terminal stage scope fits, fun unchanged => ?_⟩
  have steady : canvas.Steady := unchanged
  rw [steady.style_eq_write]
  rfl

/-- The styles of a theme add codes on a terminal to what they write without colour. -/
theorem addsCodes_write (theme : Definition) :
    AddsCodes (theme.styles.write .colored) (theme.styles.write .plain) where
  shows name _ plain := theme.shows_write name plain
  ne_empty _ _ written := Sheet.write_plain_ne_empty written

/-- Colour only adds codes.  A pass over a component writes to a terminal what it writes without
colour, once the codes are taken out, and without colour no character starts a code. -/
theorem color_adds_codes (terminal : Bool) :
    ∃ colored plain, Renderer.withOutput .term terminal = .ok colored ∧
      Renderer.withOutput .text terminal = .ok plain ∧
      ∀ (stage : Stage) (scope : ScopeState) (component : Component),
        component.columns ≤ Text.wordLimit → AllPlain component.texts →
          component.title? ≠ some "" →
            ∃ shown text,
              stage.renderScope colored scope (.component component) =
                (.ok ⟨scope.theme, scope.revision, shown⟩, stage) ∧
              stage.renderScope plain scope (.component component) =
                (.ok ⟨scope.theme, scope.revision, text⟩, stage) ∧
              Text.Escape.strip shown.toList = text.toList ∧ Text.Escape.Plain text.toList := by
  refine ⟨_, _, withOutput_eq .term terminal, withOutput_eq .text terminal, ?_⟩
  intro stage scope component fits texts titled
  have said := component.shows_composed (addsCodes_write scope.theme) scope.mode texts titled
  exact ⟨_, _, renderScope_written .term terminal stage scope fits,
    renderScope_written .text terminal stage scope fits, said.strip_eq, said.plain⟩

/-- The demo accounts on a narrow screen, whose header has a title. -/
theorem color_of_narrow_demo :
    let demo : Component := .dashboard
      { Dashboard.ofAccounts Demo.accounts with heading.title := some "Send", width := 20 }
    demo.columns ≤ Text.wordLimit ∧ AllPlain demo.texts ∧ demo.title? ≠ some "" ∧
      ∃ colored plain shown text, Renderer.withOutput .term false = .ok colored ∧
        Renderer.withOutput .text false = .ok plain ∧
        Stage.renderScope {} colored ⟨.dark, 0⟩ (.component demo) =
          (.ok ⟨Catalog.dark, 0, shown⟩, {}) ∧
        Stage.renderScope {} plain ⟨.dark, 0⟩ (.component demo) =
          (.ok ⟨Catalog.dark, 0, text⟩, {}) ∧
        Text.Escape.strip shown.toList = text.toList ∧ Text.Escape.Plain text.toList := by
  intro demo
  have fits : demo.columns ≤ Text.wordLimit := by decide
  have texts : AllPlain demo.texts := by decide
  have titled : demo.title? ≠ some "" := by decide
  obtain ⟨colored, plain, term, text, adds⟩ := color_adds_codes false
  obtain ⟨shown, unstyled, whole⟩ := adds {} ⟨.dark, 0⟩ demo fits texts titled
  exact ⟨fits, texts, titled, colored, plain, shown, unstyled, term, text, whole⟩

end WalletScreens.Scope

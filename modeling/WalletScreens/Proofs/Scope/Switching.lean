import WalletScreens.Proofs.Screen.Indicator

/-!
Switching the theme.

A pass in one mode and a pass in the other can be read alike but for the line that says which mode
it is.
-/

namespace WalletScreens.Scope

open Screen Style Text Theme Wallet

/-- What can be read of an output.  A terminal does not show codes. -/
def visible (rendition : Rendition) (written : String) : String :=
  if rendition.isColored then String.ofList (Escape.strip written.toList) else written

/-- What is written can be read as a text, whatever is written after it. -/
def ReadsAs (rendition : Rendition) (written text : String) : Prop :=
  if rendition.isColored then Shows written text else written = text

namespace ReadsAs

variable {rendition : Rendition} {written text more moreText : String}

theorem append (first : ReadsAs rendition written text) (second : ReadsAs rendition more moreText) :
    ReadsAs rendition (written ++ more) (text ++ moreText) := by
  unfold ReadsAs at *
  split
  · rename_i colored
    rw [if_pos colored] at first second
    exact first.append second
  · rename_i colorless
    rw [if_neg colorless] at first second
    rw [first, second]

theorem visible_eq (reads : ReadsAs rendition written text) : visible rendition written = text := by
  unfold ReadsAs at reads
  unfold visible
  split
  · rename_i colored
    rw [if_pos colored] at reads
    rw [reads.strip_eq, String.ofList_toList]
  · rename_i colorless
    rw [if_neg colorless] at reads
    exact reads

end ReadsAs

theorem addsCodes_writeOr (theme : Definition) :
    AddsCodes (theme.styles.writeOr .colored (Rendition.marked .colored))
      (Rendition.marked .colored) where
  shows name _ plain := theme.shows_writeOr name plain
  ne_empty _ _ written := written

/-- What stands before the mode and after it reads the same in all themes. -/
theorem exists_readsAs (rendition : Rendition) (component : Component)
    (texts : rendition = .colored → AllPlain component.texts) :
    ∃ before after, ∀ (theme : Definition) (mode : Mode),
      ReadsAs rendition (component.above (theme.styles.write rendition)) before ∧
        ReadsAs rendition (component.indicator (theme.styles.write rendition) mode)
          (component.indicator rendition.marked mode) ∧
        ReadsAs rendition (component.below (theme.styles.write rendition)) after := by
  have known (theme : Definition) : ∀ name ∈ baseNames ++ partNames,
      theme.styles.write rendition name = theme.styles.writeOr rendition rendition.marked name :=
    fun name known => theme.write_eq_writeOr known rendition rendition.marked
  cases colored : rendition.isColored with
  | false =>
      refine ⟨component.above rendition.marked, component.below rendition.marked,
        fun theme mode => ?_⟩
      rw [component.above_congr (known theme), component.indicator_congr (known theme),
        component.below_congr (known theme), theme.styles.writeOr_marked colored]
      simp [ReadsAs, colored]
  | true =>
      obtain rfl := Rendition.eq_colored colored
      obtain ⟨after, below⟩ := component.exists_shows_below (Rendition.marked .colored) (texts rfl)
      refine ⟨component.above (Rendition.marked .colored), after, fun theme mode => ?_⟩
      have codes := addsCodes_writeOr theme
      have titles := theme.writeOr_colored_ne_empty (by decide : "headline" ∈ _)
        (Rendition.marked .colored)
      rw [component.above_congr (known theme), component.indicator_congr (known theme),
        component.below_congr (known theme)]
      exact ⟨component.shows_above codes (texts rfl), component.shows_indicator codes mode,
        below _ codes titles⟩

theorem indicator_on_one_line (rendition : Rendition) (component : Component) (mode : Mode) :
    '\n' ∉ (component.indicator rendition.marked mode).toList := by
  have line : '\n' ∉ (Header.indicator rendition.marked mode).toList := by
    cases rendition <;> cases mode <;> decide
  cases component with
  | header part | dashboard state | pageScreen state => exact line
  | _ => exact List.not_mem_nil

/-- A switch of the theme changes colours only.  A component that does not say which mode it is
reads the same in both modes, and writes the same where there is no colour.  Around the sign and the
words for the mode a header reads the same too, so no mode moves a line or changes a text. -/
theorem mode_changes_colors_only (output : OutputMode) (terminal : Bool) :
    let rendition := output.rendition terminal
    ∃ renderer, Renderer.withOutput output terminal = .ok renderer ∧
      ∀ component : Component, component.columns ≤ Text.wordLimit →
        (rendition = .colored → AllPlain component.texts) →
          ∃ before after : String, ∀ (stage : Stage) (scope : ScopeState), ∃ above below,
            let indicator := component.indicator (scope.theme.styles.write rendition) scope.mode
            let said := component.indicator rendition.marked scope.mode
            let written := above ++ indicator ++ below
            stage.renderScope renderer scope (.component component) =
                (.ok ⟨scope.theme, scope.revision, written⟩, stage) ∧
              visible rendition above = before ∧ visible rendition indicator = said ∧
              visible rendition below = after ∧
              visible rendition written = before ++ said ++ after ∧
              (visible rendition written).toList.count '\n' =
                (before ++ after).toList.count '\n' := by
  intro rendition
  refine ⟨⟨output, terminal, Layout.builtIn⟩, withOutput_eq output terminal, ?_⟩
  intro component fits texts
  obtain ⟨before, after, reads⟩ := exists_readsAs rendition component texts
  refine ⟨before, after, fun stage scope => ?_⟩
  obtain ⟨first, second, third⟩ := reads scope.theme scope.mode
  refine ⟨component.above (scope.theme.styles.write rendition),
    component.below (scope.theme.styles.write rendition), ?_⟩
  intro indicator said written
  have whole : visible rendition written = before ++ said ++ after :=
    ((first.append second).append third).visible_eq
  refine ⟨?_, first.visible_eq, second.visible_eq, third.visible_eq, whole, ?_⟩
  · rw [renderScope_written output terminal stage scope fits, component.composed_apart]
  · have breaks : said.toList.count '\n' = 0 :=
      List.count_eq_zero.mpr (indicator_on_one_line rendition component scope.mode)
    rw [whole]
    simp only [String.toList_append, List.count_append, breaks, Nat.add_zero]

/-- The demo accounts under a title that is empty, in one mode and in the other. -/
theorem switch_of_narrow_demo :
    let demo : Component := .dashboard
      { Dashboard.ofAccounts Demo.accounts with heading.title := some "", width := 20 }
    demo.columns ≤ Text.wordLimit ∧ AllPlain demo.texts ∧
      ∃ renderer before after dark light, Renderer.withOutput .term false = .ok renderer ∧
        Stage.renderScope {} renderer ⟨.dark, 0⟩ (.component demo) =
          (.ok ⟨Catalog.dark, 0, dark⟩, {}) ∧
        Stage.renderScope {} renderer ⟨.light, 1⟩ (.component demo) =
          (.ok ⟨Catalog.light, 1, light⟩, {}) ∧
        visible .colored dark = before ++ "☾ dark theme" ++ after ∧
        visible .colored light = before ++ "☀ light theme" ++ after := by
  intro demo
  have fits : demo.columns ≤ Text.wordLimit := by decide
  have texts : AllPlain demo.texts := by decide
  obtain ⟨renderer, made, switches⟩ := mode_changes_colors_only .term false
  obtain ⟨before, after, reads⟩ := switches demo fits fun _ => texts
  obtain ⟨_, _, dark, -, -, -, inDark, -⟩ := reads {} ⟨.dark, 0⟩
  obtain ⟨_, _, light, -, -, -, inLight, -⟩ := reads {} ⟨.light, 1⟩
  exact ⟨fits, texts, renderer, before, after, _, _, made, dark, light, inDark, inLight⟩

end WalletScreens.Scope

import WalletScreens.Proofs.Scope.Alignment

/-!
The sections of a header.

A header is a logo, the mode with a hint, and the title if there is one.  Whether the title has its
block is asked of the line it is written as, and that line can be empty only where styles write
nothing around a piece.
-/

namespace WalletScreens.Screen

open Style Text Theme Wallet

namespace Header

def hint (header : Header) : String :=
  header.heading.toggleHint.getD defaultHint

/-- The same header without a title. -/
def untitled (header : Header) : Header :=
  ⟨{ header.heading with title := none }⟩

/-- The lines of a header whose title, if it has one, has its block: two for the logo, those of the
hint, a blank one and those of the title. -/
def lineCount (header : Header) : Nat :=
  2 + (lines header.hint).length +
    match header.heading.title with
    | some title => 1 + (lines title).length
    | none => 0

section

variable (style : String → String → String) (mode : Mode) (header : Header)

/-- All of a header in front of the hint. -/
def start : String :=
  above style ++ indicator style mode ++ "  "

theorem composed_untitled :
    header.untitled.composed style mode =
      start style mode ++ style "text.secondary" header.hint := by
  simp only [composed, untitled, start, hint, above, indicator, String.append_assoc,
    String.append_empty]

variable {header}

theorem composed_of_untitled (titled : header.heading.title = none) :
    header.composed style mode = header.untitled.composed style mode := by
  simp only [composed, untitled, titled]

theorem composed_of_titled {title : String} (titled : header.heading.title = some title) :
    header.composed style mode = header.untitled.composed style mode ++
      if Headline.composed style ⟨title⟩ = "" then ""
      else "\n\n" ++ Headline.composed style ⟨title⟩ := by
  simp only [composed, untitled, titled, String.append_empty]

end

variable {style : String → String → String} (kept : KeepsBreaks style) (mode : Mode)
  (header : Header)
include kept

theorem breaks_start : breaks (start style mode) = 2 := by
  have icon : breaks (icon mode) = 0 := by cases mode <;> decide
  have label : breaks (modeLabel mode) = 0 := by cases mode <;> decide
  simp only [start, above, Logo.composed, indicator, breaks_append, kept "logo" (by decide),
    kept "mode" (by decide), icon, label, Bool.false_eq_true, if_false]
  rfl

theorem breaks_untitled :
    breaks (header.untitled.composed style mode) = 2 + breaks header.hint := by
  rw [composed_untitled, breaks_append, breaks_start kept, kept _ (by decide)]

end Header

end WalletScreens.Screen

namespace WalletScreens.Scope

open Screen Style Text Theme Wallet

/-- The header has a title, but nothing is written for it. -/
def LosesTitle (rendition : Rendition) (header : Header) : Prop :=
  header.heading.title = some "" ∧ rendition.marks = false

instance (rendition : Rendition) (header : Header) : Decidable (LosesTitle rendition header) :=
  inferInstanceAs (Decidable (_ ∧ _))

section

variable (theme : Definition) (mode : Mode) {rendition : Rendition} {header : Header}

theorem composed_of_lost (lost : LosesTitle rendition header) :
    header.composed (theme.styles.write rendition) mode =
      header.untitled.composed (theme.styles.write rendition) mode := by
  have line : theme.styles.write rendition "headline" "" = "" :=
    (theme.write_eq_empty_iff (by decide)).mpr ⟨rfl, lost.2⟩
  rw [Header.composed_of_titled _ _ lost.1, Headline.composed, if_pos line, String.append_empty]

theorem composed_of_kept {title : String} (titled : header.heading.title = some title)
    (shown : ¬ LosesTitle rendition header) :
    header.composed (theme.styles.write rendition) mode =
      header.untitled.composed (theme.styles.write rendition) mode ++ "\n\n" ++
        Headline.composed (theme.styles.write rendition) ⟨title⟩ := by
  have line : theme.styles.write rendition "headline" title ≠ "" := by
    intro empty
    obtain ⟨rfl, unmarked⟩ := (theme.write_eq_empty_iff (by decide)).mp empty
    exact shown ⟨titled, unmarked⟩
  rw [Header.composed_of_titled _ _ titled, Headline.composed, if_neg line, String.append_assoc]

theorem breaks_header (shown : ¬ LosesTitle rendition header) :
    breaks (header.composed (theme.styles.write rendition) mode) + 1 = header.lineCount := by
  have kept := keepsBreaks_write theme rendition
  have top := Header.breaks_untitled kept mode header
  rw [Header.lineCount, length_lines]
  cases titled : header.heading.title with
  | none =>
      rw [Header.composed_of_untitled _ _ titled, top]
      dsimp only
      omega
  | some title =>
      rw [composed_of_kept theme mode titled shown, breaks_append, breaks_append, top,
        Headline.composed, kept _ (by decide), show breaks "\n\n" = 2 from rfl]
      dsimp only
      rw [length_lines]
      omega

theorem breaks_header_of_lost (lost : LosesTitle rendition header) :
    breaks (header.composed (theme.styles.write rendition) mode) + 3 = header.lineCount := by
  have top := Header.breaks_untitled (keepsBreaks_write theme rendition) mode header
  rw [composed_of_lost theme mode lost, top, Header.lineCount, lost.1, length_lines]
  dsimp only
  rw [length_lines, show breaks "" = 0 from rfl]
  omega

end

/-- A title has its block, a blank line and then the headline, in every output mode and theme, and
without a title nothing follows the hint.  So the lines of a header are as many in all of them.  The
one exception is a title that is empty where styles write nothing around a piece: it is taken for
none, and its two lines are missing. -/
theorem title_has_its_block (output : OutputMode) (terminal : Bool) :
    let rendition := output.rendition terminal
    ∃ renderer, Renderer.withOutput output terminal = .ok renderer ∧
      ∀ (stage : Stage) (scope : ScopeState) (header : Header), ∃ written top start,
        let draws (component : Component) (text : String) : Prop :=
          stage.renderScope renderer scope (.component component) =
            (.ok ⟨scope.theme, scope.revision, text⟩, stage)
        draws (.header header) written ∧
          draws (.header header.untitled) top ∧
          top = start ++ scope.theme.styles.write rendition "text.secondary" header.hint ∧
          (header.heading.title = none → written = top) ∧
          (∀ title, header.heading.title = some title → ¬ LosesTitle rendition header →
            ∃ line, draws (.headline ⟨title⟩) line ∧ written = top ++ "\n\n" ++ line) ∧
          (LosesTitle rendition header → written = top) ∧
          (lines written).length =
            if LosesTitle rendition header then header.lineCount - 2 else header.lineCount := by
  intro rendition
  refine ⟨⟨output, terminal, Layout.builtIn⟩, withOutput_eq output terminal, ?_⟩
  intro stage scope header
  have drawn (component : Component) (fits : component.columns ≤ wordLimit) :=
    renderScope_written output terminal stage scope fits
  refine ⟨_, _, _, drawn (.header header) (Nat.zero_le _),
    drawn (.header header.untitled) (Nat.zero_le _), Header.composed_untitled _ _ _,
    Header.composed_of_untitled _ _, ?_, composed_of_lost scope.theme scope.mode, ?_⟩
  · intro title titled shown
    exact ⟨_, drawn (.headline ⟨title⟩) (Nat.zero_le _),
      composed_of_kept scope.theme scope.mode titled shown⟩
  · rw [length_lines]
    split
    · rename_i lost
      have missing := breaks_header_of_lost scope.theme scope.mode lost
      exact Nat.eq_sub_of_add_eq missing
    · rename_i shown
      exact breaks_header scope.theme scope.mode shown

/-- On a terminal an empty title has its block, since its line has codes. -/
theorem block_of_empty_title :
    let header : Header := ⟨{ title := some "", toggleHint := some "press\nt" }⟩
    header.heading.title = some "" ∧ ¬ LosesTitle .colored header ∧
      ∃ renderer written top start line, Renderer.withOutput .term false = .ok renderer ∧
        Stage.renderScope {} renderer ⟨.light, 0⟩ (.component (.header header)) =
          (.ok ⟨Catalog.light, 0, written⟩, {}) ∧
        Stage.renderScope {} renderer ⟨.light, 0⟩ (.component (.headline ⟨""⟩)) =
          (.ok ⟨Catalog.light, 0, line⟩, {}) ∧
        top = start ++ Catalog.light.styles.write .colored "text.secondary" "press\nt" ∧
        written = top ++ "\n\n" ++ line ∧ (lines written).length = 6 := by
  intro header
  have shown : ¬ LosesTitle (OutputMode.rendition false .term) header := by decide
  obtain ⟨renderer, made, draws⟩ := title_has_its_block .term false
  obtain ⟨written, top, start, drawn, -, ends, -, block, -, count⟩ := draws {} ⟨.light, 0⟩ header
  obtain ⟨line, headline, whole⟩ := block "" rfl shown
  rw [if_neg shown] at count
  exact ⟨rfl, shown, renderer, written, top, start, line, made, drawn, headline, ends, whole,
    count.trans (by decide +kernel)⟩

/-- In plain text an empty title has no block, though it has one on a terminal. -/
theorem no_block_of_empty_title :
    let header : Header := ⟨{ title := some "" }⟩
    ∃ plain colored written line shown,
      Renderer.withOutput .text false = .ok plain ∧ Renderer.withOutput .term false = .ok colored ∧
      Stage.renderScope {} plain ⟨.dark, 0⟩ (.component (.header header)) =
        (.ok ⟨Catalog.dark, 0, written⟩, {}) ∧
      Stage.renderScope {} plain ⟨.dark, 0⟩ (.component (.headline ⟨""⟩)) =
        (.ok ⟨Catalog.dark, 0, line⟩, {}) ∧
      Stage.renderScope {} colored ⟨.dark, 0⟩ (.component (.header header)) =
        (.ok ⟨Catalog.dark, 0, shown⟩, {}) ∧
      written = "◆ GO\n  LOSOVANIE\n☾ dark theme  t: switch theme" ∧ line = "" ∧
      (¬ ∃ top, written = top ++ "\n\n" ++ line) ∧
      (lines written).length = 3 ∧ (lines shown).length = 5 := by
  intro header
  have drawn (output : OutputMode) (component : Component) (fits : component.columns ≤ wordLimit) :=
    renderScope_written output false {} ⟨.dark, 0⟩ fits
  have text : header.composed (Catalog.dark.styles.write .plain) .dark =
      "◆ GO\n  LOSOVANIE\n☾ dark theme  t: switch theme" := by
    decide +kernel
  have empty : Headline.composed (Catalog.dark.styles.write .plain) ⟨""⟩ = "" := by decide +kernel
  have count : header.lineCount = 5 := by decide +kernel
  have three : (lines (header.composed (Catalog.dark.styles.write .plain) .dark)).length = 3 := by
    have lost : LosesTitle .plain header := by decide
    have missing := breaks_header_of_lost Catalog.dark .dark lost
    rw [length_lines]
    omega
  have five : (lines (header.composed (Catalog.dark.styles.write .colored) .dark)).length = 5 := by
    have kept : ¬ LosesTitle .colored header := by decide
    rw [length_lines, breaks_header Catalog.dark .dark kept, count]
  refine ⟨_, _, _, _, _, withOutput_eq .text false, withOutput_eq .term false,
    drawn .text (.header header) (Nat.zero_le _), drawn .text (.headline ⟨""⟩) (Nat.zero_le _),
    drawn .term (.header header) (Nat.zero_le _), text, empty, ?_, three, five⟩
  rintro ⟨top, block⟩
  have whole := (text.symm.trans block).trans (congrArg (top ++ "\n\n" ++ ·) empty)
  have last := congrArg (fun written => written.toList.getLast?) whole
  simp at last

end WalletScreens.Scope

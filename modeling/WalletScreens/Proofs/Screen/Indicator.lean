import WalletScreens.Proofs.Screen.Naming

/-!
Screens in one mode and in the other.

A mode reaches a screen through the styles of its theme and through the line of the header that
says which mode it is.  Apart from this line the two modes can be read as one: they differ in
codes only.
-/

namespace WalletScreens.Screen

open Style Text Theme Wallet

/-- The mode as a sign and in words. -/
def Header.indicator (style : String → String → String) (mode : Mode) : String :=
  style "mode" (Header.icon mode) ++ " " ++ style "mode" (Header.modeLabel mode)

/-- Which mode it is, where a component says so. -/
def Component.indicator (style : String → String → String) (mode : Mode) : Component → String
  | .header _ | .dashboard _ | .pageScreen _ => Header.indicator style mode
  | _ => ""

section

variable (style : String → String → String)

def Header.above : String :=
  Logo.composed style {} ++ "\n"

def Header.below (header : Header) : String :=
  "  " ++ style "text.secondary" (header.heading.toggleHint.getD Header.defaultHint) ++
  match header.heading.title with
  | some title =>
      let line := Headline.composed style ⟨title⟩
      if line = "" then "" else "\n\n" ++ line
  | none => ""

/-- What stands in front of the mode.  A component that does not say which mode it is comes here
as a whole, and is the same in all modes. -/
def Component.above : Component → String
  | .header _ | .dashboard _ | .pageScreen _ => Header.above style
  | component => component.composed style .dark

def Component.below : Component → String
  | .header part => part.below style
  | .dashboard state =>
      let divider := Divider.composed style ⟨state.width⟩
      Header.below style ⟨state.heading⟩ ++ "\n\n" ++
        blocks
          [divider, AccountCards.composed style ⟨state.selection, state.accountColumns⟩, divider,
            composedActivePage style state]
  | .pageScreen state =>
      Header.below style ⟨state.heading⟩ ++ "\n\n" ++
        blocks [Divider.composed style ⟨state.width⟩, composedActivePage style state]
  | _ => ""

theorem Header.composed_apart (header : Header) (mode : Mode) :
    header.composed style mode =
      Header.above style ++ Header.indicator style mode ++ header.below style := by
  cases titled : header.heading.title <;>
    simp only [composed, above, indicator, below, titled, String.append_assoc]

theorem Component.composed_apart (component : Component) (mode : Mode) :
    component.composed style mode =
      component.above style ++ component.indicator style mode ++ component.below style := by
  cases component with
  | header part => exact part.composed_apart style mode
  | dashboard state | pageScreen state =>
      simp only [composed, composedDashboard, composedPageScreen, blocks, above, indicator, below,
        String.intercalate_cons_cons, Header.composed_apart, String.append_assoc]
  | _ => simp only [composed, above, indicator, below, String.append_empty]

end

section

variable {first second : String → String → String}
  (alike : ∀ name ∈ baseNames ++ partNames, first name = second name)
include alike

theorem Component.above_congr (component : Component) :
    component.above first = component.above second := by
  cases component with
  | header part | dashboard state | pageScreen state =>
      exact congrArg (· ++ "\n") (Logo.composed_congr alike {})
  | _ => simp only [above, Component.composed_congr alike]

theorem Component.indicator_congr (component : Component) (mode : Mode) :
    component.indicator first mode = component.indicator second mode := by
  cases component <;> simp only [indicator, Header.indicator, alike "mode" (by decide)]

theorem Header.below_congr (header : Header) : header.below first = header.below second := by
  simp only [below, alike "text.secondary" (by decide), Headline.composed_congr alike]

theorem Component.below_congr (component : Component) :
    component.below first = component.below second := by
  cases component <;>
    simp only [below, Header.below_congr alike, Divider.composed_congr alike,
      AccountCards.composed_congr alike, composedActivePage_congr alike]

end

section

variable {shown plain : String → String → String} (codes : AddsCodes shown plain)
include codes

theorem Component.shows_indicator (component : Component) (mode : Mode) :
    Shows (component.indicator shown mode) (component.indicator plain mode) := by
  cases component with
  | header part | dashboard state | pageScreen state =>
      exact (codes.shows "mode" (Header.plain_icon mode)).joined " " (by decide)
        (codes.shows "mode" (Header.plain_modeLabel mode))
  | _ => exact (Shows.of_plain (by decide) : Shows "" "")

theorem Component.shows_above (component : Component) (texts : AllPlain component.texts) :
    Shows (component.above shown) (component.above plain) := by
  cases component with
  | header part | dashboard state | pageScreen state =>
      exact (Logo.shows_composed codes {}).append (.of_plain (by decide))
  | _ => exact Component.shows_composed codes _ .dark texts nofun

end

section

variable (plain : String → String → String)

/-- On a terminal the line of a title is written even where the title is empty, so a title always
has its block there. -/
theorem Header.exists_shows_below (header : Header) (texts : AllPlain header.texts) :
    ∃ after, ∀ shown, AddsCodes shown plain → (∀ text, shown "headline" text ≠ "") →
      Shows (header.below shown) after := by
  let start := "  " ++
    plain "text.secondary" (header.heading.toggleHint.getD Header.defaultHint)
  have starts {shown : String → String → String} (codes : AddsCodes shown plain) :
      Shows ("  " ++ shown "text.secondary" (header.heading.toggleHint.getD Header.defaultHint))
        start :=
    (Shows.of_plain (by decide)).append (codes.shows _ (Header.plain_hint texts))
  cases titled : header.heading.title with
  | none =>
      refine ⟨start ++ "", fun shown codes _ => ?_⟩
      simp only [below, titled]
      exact (starts codes).append (.of_plain (by decide))
  | some title =>
      refine ⟨start ++ ("\n\n" ++ Headline.composed plain ⟨title⟩), fun shown codes written => ?_⟩
      have line : Shows (Headline.composed shown ⟨title⟩) (Headline.composed plain ⟨title⟩) :=
        codes.shows _ (texts title (by simp [Header.texts, titled]))
      have drawn : Headline.composed shown ⟨title⟩ ≠ "" := written title
      simp only [below, titled, if_neg drawn]
      exact (starts codes).append ((Shows.of_plain (by decide)).append line)

theorem Component.exists_shows_below (component : Component) (texts : AllPlain component.texts) :
    ∃ after, ∀ shown, AddsCodes shown plain → (∀ text, shown "headline" text ≠ "") →
      Shows (component.below shown) after := by
  cases component with
  | header part => exact part.exists_shows_below plain texts
  | dashboard state =>
      obtain ⟨upper, page⟩ := List.forall_mem_append.mp texts
      obtain ⟨heading, accounts⟩ := List.forall_mem_append.mp upper
      obtain ⟨after, below⟩ := Header.exists_shows_below plain ⟨state.heading⟩ heading
      refine ⟨after ++ "\n\n" ++
        blocks
          [Divider.composed plain ⟨state.width⟩,
            AccountCards.composed plain ⟨state.selection, state.accountColumns⟩,
            Divider.composed plain ⟨state.width⟩, composedActivePage plain state],
        fun shown codes written => ?_⟩
      have divider := Divider.shows_composed codes ⟨state.width⟩
      exact (below shown codes written).joined "\n\n" (by decide)
        (shows_blocks
          (.cons divider
          (.cons (AccountCards.shows_composed codes _ accounts)
          (.cons divider
          (.cons (shows_composedActivePage codes state page) .nil)))))
  | pageScreen state =>
      obtain ⟨heading, page⟩ := List.forall_mem_append.mp texts
      obtain ⟨after, below⟩ := Header.exists_shows_below plain ⟨state.heading⟩ heading
      refine ⟨after ++ "\n\n" ++
        blocks [Divider.composed plain ⟨state.width⟩, composedActivePage plain state],
        fun shown codes written => ?_⟩
      exact (below shown codes written).joined "\n\n" (by decide)
        (shows_blocks
          (.cons (Divider.shows_composed codes ⟨state.width⟩)
          (.cons (shows_composedActivePage codes state page) .nil)))
  | _ => exact ⟨"", fun _ _ _ => (Shows.of_plain (by decide) : Shows "" "")⟩

end

end WalletScreens.Screen

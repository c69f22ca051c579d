import WalletScreens.Proofs.Scope.Ambient
import WalletScreens.Proofs.Session.Filling
import WalletScreens.Wallet.Demo

/-!
Theme and view apart.

A toggle reads and changes the registry alone.  Any other event reads and changes the dashboard
alone, but for what it writes and for the notices that it leaves.  So each of the two ends where it
would have ended without the events that are for the other, however the events are mixed.
-/

namespace WalletScreens.Session

open Scope Wallet

/-- What is written while events are handled one after the other. -/
def writtenBy : List Event → Dashboard → Stage → String
  | [], _, _ => ""
  | event :: rest, dashboard, stage =>
      let handled := event.handle dashboard stage
      handled.written ++ writtenBy rest handled.dashboard handled.stage

/-- What an event does to the dashboard and what it writes is the same on every stage. -/
theorem Event.handle_on_any_stage (event : Event) (dashboard : Dashboard) (stage other : Stage) :
    (event.handle dashboard stage).dashboard = (event.handle dashboard other).dashboard ∧
      (event.handle dashboard stage).written = (event.handle dashboard other).written := by
  cases event <;> exact ⟨rfl, rfl⟩

/-- An event that is no toggle leaves no more than notices on the stage. -/
theorem Event.unnoted_handle {event : Event} (other : event ≠ .toggle) (dashboard : Dashboard)
    (stage : Stage) : (event.handle dashboard stage).stage.unnoted = stage.unnoted := by
  cases event with
  | toggle => contradiction
  | select | turnTo | fill | submit | redraw | quit | unknown => rfl

section

variable (events : List Event) (dashboard : Dashboard)

/-- Toggles do not show in the dashboard or in what is written, nor does the stage that the other
events find. -/
theorem handleAll_without_toggles (stage other : Stage) :
    (handleAll events dashboard stage).1 =
        (handleAll (events.filter (· ≠ .toggle)) dashboard other).1 ∧
      writtenBy events dashboard stage =
        writtenBy (events.filter (· ≠ .toggle)) dashboard other := by
  induction events generalizing dashboard stage other with
  | nil => exact ⟨rfl, rfl⟩
  | cons event rest ih =>
      by_cases toggles : event = .toggle
      · obtain ⟨kept, written⟩ := ih dashboard stage.requestToggle other
        rw [List.filter_cons_of_neg (by simpa using toggles), toggles]
        exact ⟨kept, (String.empty_append).trans written⟩
      · obtain ⟨same, wrote⟩ := event.handle_on_any_stage dashboard stage other
        obtain ⟨kept, written⟩ := ih (event.handle dashboard stage).dashboard
          (event.handle dashboard stage).stage (event.handle dashboard other).stage
        rw [List.filter_cons_of_pos (by simpa using toggles), handleAll, handleAll, writtenBy,
          writtenBy, ← same, ← wrote]
        exact ⟨kept, congrArg (_ ++ ·) written⟩

/-- Nothing but toggles shows on the stage, apart from notices. -/
theorem unnoted_handleAll_toggles (elsewhere : Dashboard) (stage other : Stage)
    (alike : stage.unnoted = other.unnoted) :
    (handleAll events dashboard stage).2.unnoted =
      (handleAll (events.filter (· = .toggle)) elsewhere other).2.unnoted := by
  induction events generalizing dashboard stage other with
  | nil => exact alike
  | cons event rest ih =>
      by_cases toggles : event = .toggle
      · have toggled : stage.requestToggle.unnoted = other.requestToggle.unnoted := by
          rw [stage.unnoted_requestToggle, alike, ← other.unnoted_requestToggle]
        rw [List.filter_cons_of_pos (by simpa using toggles), toggles]
        exact ih dashboard _ _ toggled
      · have kept := Event.unnoted_handle toggles dashboard stage
        rw [List.filter_cons_of_neg (by simpa using toggles)]
        exact ih (event.handle dashboard stage).dashboard _ _ (kept.trans alike)

end

/-- The theme and the view do not interfere.  Without the toggles, events leave the same dashboard
and write the same; without all others, they leave the same registry, with the same mode and the
same scopes.  So two mixtures of the same toggles and the same other events end alike and write the
same. -/
theorem theme_and_view_apart (dashboard : Dashboard) (stage : Stage) (events : List Event) :
    let ofView := events.filter (· ≠ .toggle)
    let ofTheme := events.filter (· = .toggle)
    let now := handleAll events dashboard stage
    now.1 = (handleAll ofView dashboard stage).1 ∧
      writtenBy events dashboard stage = writtenBy ofView dashboard stage ∧
      now.2.unnoted = (handleAll ofTheme dashboard stage).2.unnoted ∧
      now.2.registry = (handleAll ofTheme dashboard stage).2.registry ∧
      ∀ mixed : List Event,
        mixed.filter (· ≠ .toggle) = ofView → mixed.filter (· = .toggle) = ofTheme →
          (handleAll mixed dashboard stage).1 = now.1 ∧
          (handleAll mixed dashboard stage).2.registry = now.2.registry ∧
          writtenBy mixed dashboard stage = writtenBy events dashboard stage := by
  intro ofView ofTheme now
  obtain ⟨view, written⟩ := handleAll_without_toggles events dashboard stage stage
  have themed := unnoted_handleAll_toggles events dashboard dashboard stage stage rfl
  refine ⟨view, written, themed, (congrArg Stage.registry themed :), ?_⟩
  intro mixed sameView sameTheme
  obtain ⟨mixedView, mixedWritten⟩ := handleAll_without_toggles mixed dashboard stage stage
  have mixedThemed := unnoted_handleAll_toggles mixed dashboard dashboard stage stage rfl
  rw [sameView] at mixedView mixedWritten
  rw [sameTheme, ← themed] at mixedThemed
  exact ⟨mixedView.trans view.symm, (congrArg Stage.registry mixedThemed :),
    mixedWritten.trans written.symm⟩

/-- Three toggles, at other places among a filling, a selection of no account and a submission. -/
theorem apart_of_two_mixtures :
    let dashboard := Dashboard.ofAccounts Demo.accounts
    let stage := ({} : Stage).mount.2
    let events := [.fill "amount" "3", .toggle, .select 9, .submit, .toggle, .toggle]
    let mixed := [.toggle, .toggle, .fill "amount" "3", .select 9, .toggle, .submit]
    mixed.filter (· ≠ .toggle) = events.filter (· ≠ .toggle) ∧
      mixed.filter (· = .toggle) = events.filter (· = .toggle) ∧
      (handleAll mixed dashboard stage).1 = (handleAll events dashboard stage).1 ∧
      (handleAll mixed dashboard stage).2.registry = (handleAll events dashboard stage).2.registry ∧
      (handleAll events dashboard stage).2.registry.targets = [(1, .scope ⟨.light, 3⟩)] ∧
      writtenBy mixed dashboard stage = writtenBy events dashboard stage := by
  intro dashboard stage events mixed
  have sameView : mixed.filter (· ≠ .toggle) = events.filter (· ≠ .toggle) := by decide
  have sameTheme : mixed.filter (· = .toggle) = events.filter (· = .toggle) := by decide
  obtain ⟨-, -, -, -, alike⟩ := theme_and_view_apart dashboard stage events
  obtain ⟨left, registry, written⟩ := alike mixed sameView sameTheme
  exact ⟨sameView, sameTheme, left, registry, rfl, written⟩

end WalletScreens.Session

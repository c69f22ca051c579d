import WalletScreens.Proofs.Session.Filling
import WalletScreens.Proofs.Session.Freshness
import WalletScreens.Proofs.Session.Grammar

/-!
One run against a session.

What both draw depends on the mode and the dashboard alone.  The observer of a session answers no
toggle, so each toggle flips the mode just once, and a session that is told what the options of a
run ask for has the mode and the dashboard of that run at its end.
-/

namespace WalletScreens.Session

open CommandLine Scope Screen Style Theme Wallet

variable {stage : Stage} {id : SubscriptionId} {scope : ScopeState}

/-- What a pass over a dashboard writes in a mode, with no other theme provided around it. -/
def drawn (renderer : Renderer) (mode : Mode) (dashboard : Dashboard) : Except RenderFault String :=
  (Component.dashboard dashboard).render
    ⟨renderer, Catalog.resolve mode, [Catalog.resolve mode], renderer.terminal⟩

theorem Event.step_handle {event : Event} (stays : event ≠ .quit) (dashboard : Dashboard)
    (stage : Stage) : ∃ dirty, (event.handle dashboard stage).step = .readOn dirty := by
  cases event with
  | quit => exact absurd rfl stays
  | toggle | select | turnTo | fill | submit | redraw | unknown => exact ⟨_, rfl⟩

theorem quiet_handle (quiet : stage.Quiet id scope) (event : Event) (dashboard : Dashboard) :
    ∃ after : ScopeState, (event.handle dashboard stage).stage.Quiet id after ∧
      after.mode = Mode.toggled^[[event].count .toggle] scope.mode := by
  cases event with
  | toggle => exact ⟨_, quiet.requestToggle_iterate 1, rfl⟩
  | select | turnTo | fill | submit | redraw | quit | unknown =>
      exact ⟨scope, ⟨quiet.active, quiet.agrees, quiet.silent, quiet.bare⟩, rfl⟩

namespace Console

variable {console : Console} {turn : Turn}

theorem obey_next_of_ne_quit (builtIn : console.renderer.library = Layout.builtIn)
    (fits : console.dashboard.accountColumns ≤ Text.wordLimit) {line : String}
    (stays : Event.parse line ≠ .quit) :
    let handled := (Event.parse line).handle console.dashboard console.stage
    ∃ drawnRevision, (console.obey line).next =
      .ok { console with dashboard := handled.dashboard, stage := handled.stage, drawnRevision } := by
  intro handled
  obtain ⟨dirty, step⟩ := Event.step_handle stays console.dashboard console.stage
  have wide : handled.dashboard.accountColumns ≤ Text.wordLimit := by
    rw [Event.handle_accountColumns]
    exact fits
  have drawn :=
    refresh_next { console with dashboard := handled.dashboard, stage := handled.stage } builtIn wide
      dirty
  unfold obey
  dsimp only
  rw [step]
  exact drawn

/-- A session between two lines, whose last frame shows it as it is and whose mode only toggles
change. -/
structure Follows (turn : Turn) (console : Console) (scope : ScopeState) : Prop where
  next : turn.next = .ok console
  quiet : console.stage.Quiet console.scope scope
  fresh : Fresh turn.written console scope

/-- One line more, which does to the dashboard and the stage what its event does. -/
theorem Follows.advance (follows : Follows turn console scope)
    (builtIn : console.renderer.library = Layout.builtIn)
    (fits : console.dashboard.accountColumns ≤ Text.wordLimit) {line : String}
    (stays : Event.parse line ≠ .quit) :
    let handled := (Event.parse line).handle console.dashboard console.stage
    ∃ now after, Follows (advance turn (some line)) now after ∧
      now.renderer = console.renderer ∧ now.dashboard = handled.dashboard ∧
      now.stage = handled.stage ∧
      after.mode = Mode.toggled^[[Event.parse line].count .toggle] scope.mode := by
  intro handled
  obtain ⟨drawnRevision, next⟩ := obey_next_of_ne_quit builtIn fits stays
  obtain ⟨after, quiet, mode⟩ := quiet_handle follows.quiet (Event.parse line) console.dashboard
  -- The scope that the frame is fresh for is not told apart by its mode, but the session has one.
  obtain ⟨shown, fresh⟩ := fresh_obey follows.fresh line next
  have same : shown = after := Option.some.inj (fresh.showing.scope?.symm.trans quiet.scope?)
  have advanced : Console.advance turn (some line) =
      ⟨turn.written ++ (console.obey line).written, (console.obey line).next⟩ := by
    rw [Console.advance, follows.next]
    rfl
  rw [advanced]
  rw [same] at fresh
  exact ⟨_, after, ⟨next, quiet, fresh⟩, rfl, rfl, rfl, mode⟩

theorem Follows.foldl_advance (follows : Follows turn console scope)
    (builtIn : console.renderer.library = Layout.builtIn)
    (fits : console.dashboard.accountColumns ≤ Text.wordLimit) {lines : List String}
    (stay : .quit ∉ lines.map Event.parse) :
    ∃ now after, Follows ((lines.map some).foldl Console.advance turn) now after ∧
      now.renderer = console.renderer ∧
      (now.dashboard, now.stage) =
        handleAll (lines.map Event.parse) console.dashboard console.stage ∧
      after.mode = Mode.toggled^[(lines.map Event.parse).count .toggle] scope.mode := by
  induction lines generalizing turn console scope with
  | nil => exact ⟨console, scope, follows, rfl, rfl, rfl⟩
  | cons line rest ih =>
      rw [List.map_cons, List.mem_cons, not_or] at stay
      obtain ⟨middle, between, reached, renderer, dashboard, stage, mode⟩ :=
        follows.advance builtIn fits (Ne.symm stay.1)
      have wide : middle.dashboard.accountColumns ≤ Text.wordLimit := by
        rw [dashboard, Event.handle_accountColumns]
        exact fits
      obtain ⟨now, after, ended, same, handled, turned⟩ :=
        ih reached (by rw [renderer]; exact builtIn) wide stay.2
      refine ⟨now, after, ended, same.trans renderer, ?_, ?_⟩
      · rw [handled, dashboard, stage]
        rfl
      · rw [turned, mode, ← Function.iterate_add_apply, Nat.add_comm, ← List.count_append]
        rfl

end Console

end WalletScreens.Session

import WalletScreens.CommandLine.Program
import WalletScreens.Proofs.Scope.Announcement
import WalletScreens.Proofs.Scope.Rendering

/-!
No stale screen.

A new frame is written where the dashboard changed or the scope's revision moved.  Events of the
first kind say so themselves; a toggle moves the revision of the active scope, which is the one of
the session.
-/

namespace WalletScreens.Session

open CommandLine Scope Screen Style Theme Wallet

/-- Only a toggle touches the theme, and it leaves the dashboard alone; whatever else changes the
dashboard asks for a new frame. -/
theorem Event.handle_view (event : Event) (dashboard : Dashboard) (stage : Stage) :
    let handled := event.handle dashboard stage
    (handled.stage = stage.requestToggle ∧ handled.dashboard = dashboard) ∨
      (handled.stage.registry = stage.registry ∧ handled.stage.ambient = stage.ambient ∧
        (handled.step = .readOn false → handled.dashboard = dashboard)) := by
  cases event with
  | toggle => exact .inl ⟨rfl, rfl⟩
  | select id =>
      refine .inr ⟨rfl, rfl, fun clean => ?_⟩
      simp only [handle, Dashboard.select, Selection.select] at clean ⊢
      split at clean
      · simp at clean
      · rfl
  | turnTo page =>
      refine .inr ⟨rfl, rfl, fun clean => ?_⟩
      have same : dashboard.page = page := by simpa [handle] using clean
      simp [handle, ← same]
  | fill field value =>
      refine .inr ⟨rfl, rfl, fun clean => ?_⟩
      simp only [handle, Dashboard.setField] at clean ⊢
      split at clean
      · simp at clean
      · rfl
  | submit => exact .inr ⟨rfl, rfl, fun _ => rfl⟩
  | redraw => exact .inr ⟨rfl, rfl, fun _ => rfl⟩
  | quit => exact .inr ⟨rfl, rfl, fun _ => rfl⟩
  | unknown input => exact .inr ⟨rfl, rfl, fun _ => rfl⟩

theorem Event.handle_accountColumns (event : Event) (dashboard : Dashboard) (stage : Stage) :
    (event.handle dashboard stage).dashboard.accountColumns = dashboard.accountColumns := by
  cases event with
  | select id =>
      simp only [handle, Dashboard.select]
      rfl
  | fill field value =>
      simp only [handle, Dashboard.setField]
      split <;> rfl
  | _ => rfl

theorem lastFrame_append (written more : List Writing) :
    lastFrame (written ++ more) = (lastFrame more).or (lastFrame written) := by
  rw [lastFrame, List.filterMap_append, List.getLast?_append]
  rfl

namespace Console

variable {console now : Console} {scope : ScopeState} {written : List Writing} {dirty : Bool}

/-- The scope of the session is the active one and in the registry's mode. -/
structure Showing (console : Console) (scope : ScopeState) : Prop where
  active : ∃ older, console.stage.registry.targets = (console.scope, .scope scope) :: older
  agrees : scope.mode = console.stage.registry.mode

theorem Showing.scope? (showing : console.Showing scope) :
    console.stage.registry.scope? console.scope = some scope := by
  obtain ⟨older, active⟩ := showing.active
  simp [Registry.scope?, Registry.target?, active]

/-- The last frame that was written shows the session as it is. -/
structure Fresh (written : List Writing) (console : Console) (scope : ScopeState) : Prop where
  showing : console.Showing scope
  drawn : console.drawnRevision = some scope.revision
  frame : ∃ frame, lastFrame written = some frame ∧
    (console.stage.renderScope console.renderer scope console.screen).1 = .ok frame

theorem renderScope_screen (console : Console) (scope : ScopeState) :
    console.stage.renderScope console.renderer scope console.screen =
      (((Component.dashboard console.dashboard).render
        (console.stage.passCanvas console.renderer scope)).map
          (⟨scope.theme, scope.revision, ·⟩), console.stage) :=
  console.stage.renderScope_component _ _ _

/-- A frame that is drawn is the last one, and shows what it was drawn from. -/
theorem fresh_redraw (showing : console.Showing scope) (written : List Writing)
    (reached : (console.redraw scope).next = .ok now) :
    Fresh (written ++ (console.redraw scope).written) now scope := by
  unfold redraw at reached ⊢
  rw [renderScope_screen] at reached ⊢
  cases drawn : (Component.dashboard console.dashboard).render
      (console.stage.passCanvas console.renderer scope) with
  | error fault =>
      rw [drawn] at reached
      cases reached
  | ok output =>
      rw [drawn] at reached
      cases reached
      refine ⟨⟨showing.active, showing.agrees⟩, rfl, _, lastFrame_append _ _, ?_⟩
      rw [renderScope_screen]
      exact congrArg (Except.map _) drawn

/-- A frame that is left out would have been the last one once more. -/
theorem fresh_refresh (showing : console.Showing scope)
    (current : dirty = false → console.drawnRevision = some scope.revision →
      Fresh written console scope)
    (reached : (console.refresh dirty).next = .ok now) :
    Fresh (written ++ (console.refresh dirty).written) now scope := by
  unfold refresh at reached ⊢
  rw [showing.scope?] at reached ⊢
  dsimp only at reached ⊢
  split at reached <;> rename_i decided
  · rw [if_pos decided]
    exact fresh_redraw showing written reached
  · rw [if_neg decided, List.append_nil]
    simp only [Bool.or_eq_true, bne_iff_ne, ne_eq, not_or, Bool.not_eq_true,
      Decidable.not_not] at decided
    cases reached
    exact current decided.1 decided.2

/-- The revision that a request to toggle leaves the scope at is a new one. -/
theorem Showing.requestToggle (showing : console.Showing scope) (dashboard : Dashboard) :
    ∃ after : ScopeState, scope.revision < after.revision ∧
      Showing { console with dashboard, stage := console.stage.requestToggle } after := by
  obtain ⟨⟨older, active⟩, agrees⟩ := showing
  obtain ⟨answers, announced⟩ := console.stage.announced_requestToggle
  rw [Stage.flipsOf_mounted (by rw [Registry.isMounted, active]; rfl)] at announced
  have inMode : console.stage.registry.targets =
      (console.scope, .scope ⟨console.stage.registry.mode, scope.revision⟩) :: older := by
    rw [active, ← agrees]
  obtain ⟨mode, targets⟩ := announced.turned.of_scope inMode
  exact ⟨_, by dsimp only; omega, ⟨older, targets⟩, mode.symm⟩

/-- After a line the last frame shows the session as the line left it, whether the line was followed
by a frame or not. -/
theorem fresh_obey (fresh : Fresh written console scope) (line : String)
    (reached : (console.obey line).next = .ok now) :
    ∃ scope, Fresh (written ++ (console.obey line).written) now scope := by
  have view := (Event.parse line).handle_view console.dashboard console.stage
  unfold obey at reached ⊢
  dsimp only at view reached ⊢
  generalize (Event.parse line).handle console.dashboard console.stage = handled at view reached ⊢
  cases stepped : handled.step with
  | quit =>
      rw [stepped] at reached
      cases reached
  | readOn dirty =>
      rw [stepped] at reached view
      dsimp only at reached ⊢
      rw [List.append_cons]
      rcases view with ⟨toggled, kept⟩ | ⟨registry, ambient, kept⟩
      · obtain ⟨after, later, showing⟩ := fresh.showing.requestToggle handled.dashboard
        rw [toggled] at reached ⊢
        refine ⟨after, fresh_refresh showing (fun _ drawn => ?_) reached⟩
        have same : scope.revision = after.revision :=
          Option.some.inj (fresh.drawn.symm.trans drawn)
        omega
      · have showing :
            Showing { console with dashboard := handled.dashboard, stage := handled.stage } scope :=
          ⟨by rw [registry]; exact fresh.showing.active,
            by rw [registry]; exact fresh.showing.agrees⟩
        refine ⟨scope, fresh_refresh showing (fun clean drawn => ⟨showing, drawn, ?_⟩) reached⟩
        obtain ⟨frame, last, shown⟩ := fresh.frame
        refine ⟨frame, (lastFrame_append _ _).trans last, ?_⟩
        rw [renderScope_screen] at shown ⊢
        rw [← shown]
        dsimp only [Stage.passCanvas]
        rw [ambient, kept (by rw [clean]), ← Component.render_terminal _ _ console.stage.terminal]

theorem refresh_same (reached : (console.refresh dirty).next = .ok now) :
    now.renderer = console.renderer ∧ now.dashboard = console.dashboard := by
  unfold refresh at reached
  split at reached
  · cases reached
    exact ⟨rfl, rfl⟩
  · split at reached
    · unfold redraw at reached
      split at reached <;> cases reached
      exact ⟨rfl, rfl⟩
    · cases reached
      exact ⟨rfl, rfl⟩

/-- With the built-in templates there is nothing that a redraw could fail at, and it changes nothing
but the revision that was drawn last. -/
theorem refresh_next (console : Console) (builtIn : console.renderer.library = Layout.builtIn)
    (fits : console.dashboard.accountColumns ≤ Text.wordLimit) (dirty : Bool) :
    ∃ drawnRevision, (console.refresh dirty).next = .ok { console with drawnRevision } := by
  unfold refresh
  split
  · exact ⟨_, rfl⟩
  · rename_i scope _
    have drawn := (Component.dashboard console.dashboard).render_eq
      (standard_passCanvas builtIn console.stage scope) fits
    split
    · rw [redraw, renderScope_screen, drawn]
      exact ⟨_, rfl⟩
    · exact ⟨_, rfl⟩

theorem refresh_faultless (builtIn : console.renderer.library = Layout.builtIn)
    (fits : console.dashboard.accountColumns ≤ Text.wordLimit) (dirty : Bool)
    (fault : RenderFault) :
    (console.refresh dirty).next ≠ .error (.faulty fault) := by
  obtain ⟨drawnRevision, next⟩ := console.refresh_next builtIn fits dirty
  simp [next]

/-- What is true of a session between two lines, whatever was read before. -/
structure Sound (renderer : Renderer) (columns : Nat) (turn : Turn) : Prop where
  fresh : ∀ console, turn.next = .ok console → ∃ scope, Fresh turn.written console scope
  drawsWith : ∀ console, turn.next = .ok console → console.renderer = renderer
  wide : ∀ console, turn.next = .ok console → console.dashboard.accountColumns = columns
  faultless : renderer.library = Layout.builtIn → columns ≤ Text.wordLimit →
    ∀ fault, turn.next ≠ .error (.faulty fault)

theorem sound_start (showing : console.Showing scope) :
    Sound console.renderer console.dashboard.accountColumns console.start where
  fresh now reached := by
    have first : Fresh ([] ++ console.start.written) now scope :=
      fresh_refresh showing (fun clean => by cases clean) reached
    exact ⟨scope, first⟩
  drawsWith now reached := (refresh_same reached).1
  wide now reached := by rw [(refresh_same reached).2]
  faultless builtIn fits fault := refresh_faultless builtIn fits true fault

theorem obey_next (console : Console) (line : String) :
    (console.obey line).next = .error .finished ∨
      ∃ dirty dashboard stage, dashboard.accountColumns = console.dashboard.accountColumns ∧
        (console.obey line).next = (refresh { console with dashboard, stage } dirty).next := by
  have wide := (Event.parse line).handle_accountColumns console.dashboard console.stage
  unfold obey
  dsimp only
  split
  · exact .inl rfl
  · exact .inr ⟨_, _, _, wide, rfl⟩

/-- Nothing is asked of a session that has come to its end, but that it was no fault. -/
theorem sound_ended {columns : Nat} {renderer : Renderer} {turn : Turn} {ending : Ending}
    (ended : turn.next = .error ending) (gentle : ∀ fault, ending ≠ .faulty fault) :
    Sound renderer columns turn where
  fresh console reached := by simp [ended] at reached
  drawsWith console reached := by simp [ended] at reached
  wide console reached := by simp [ended] at reached
  faultless _ _ fault := by simpa [ended] using gentle fault

theorem sound_obey {columns : Nat} {renderer : Renderer} (fresh : Fresh written console scope)
    (same : console.renderer = renderer) (wide : console.dashboard.accountColumns = columns)
    (line : String) :
    Sound renderer columns ⟨written ++ (console.obey line).written, (console.obey line).next⟩ := by
  rcases console.obey_next line with ended | ⟨dirty, dashboard, stage, kept, next⟩
  · exact sound_ended ended (by simp)
  · refine ⟨fun now => fresh_obey fresh line, fun now reached => ?_, fun now reached => ?_,
      fun builtIn fits fault => ?_⟩
    · exact (refresh_same (next.symm.trans reached)).1.trans same
    · rw [(refresh_same (next.symm.trans reached)).2, ← wide]
      exact kept
    · dsimp only
      rw [next]
      refine refresh_faultless ?_ ?_ dirty fault
      · rw [← builtIn, ← same]
      · rw [← wide, ← kept] at fits
        exact fits

theorem Sound.advance {columns : Nat} {renderer : Renderer} {turn : Turn}
    (sound : Sound renderer columns turn) (line : Line) :
    Sound renderer columns (advance turn line) := by
  cases came : turn.next with
  | error ending =>
      rw [Console.advance, came]
      exact sound
  | ok console =>
      obtain ⟨scope, fresh⟩ := sound.fresh console came
      rw [Console.advance, came]
      cases line with
      | none => exact sound_ended rfl (by simp)
      | some line => exact sound_obey fresh (sound.drawsWith _ came) (sound.wide _ came) line

theorem Sound.foldl_advance {columns : Nat} {renderer : Renderer} {turn : Turn}
    (sound : Sound renderer columns turn) (lines : List Line) :
    Sound renderer columns (lines.foldl Console.advance turn) := by
  induction lines generalizing turn with
  | nil => exact sound
  | cons line rest ih => exact ih (sound.advance line)

theorem showing_openConsole (renderer : Renderer) (mode : Mode) (dashboard : Dashboard)
    (page : PageChoice) :
    (openConsole renderer mode dashboard page).Showing ⟨mode, 0⟩ :=
  ⟨⟨[], by simp [openConsole, Stage.mount, Stage.observe, Registry.mount, Registry.subscribe,
    Registry.observe, Target.sync, ScopeState.sync]⟩, rfl⟩

/-- Whenever a session is about to read a line, the last frame that it wrote is what it would write
if it drew a frame now.  No line can make a frame fail. -/
theorem last_frame_is_current (renderer : Renderer) (mode : Mode) (dashboard : Dashboard)
    (page : PageChoice) (lines : List Line) :
    let turn := (openConsole renderer mode dashboard page).after lines
    (∀ now, turn.next = .ok now →
      ∃ scope frame, now.stage.registry.scope? now.scope = some scope ∧
        scope.mode = now.stage.registry.mode ∧
        (now.stage.renderScope renderer scope (.component (.dashboard now.dashboard))).1 =
          .ok frame ∧
        lastFrame turn.written = some frame) ∧
    ∀ output terminal, Renderer.withOutput output terminal = .ok renderer →
      dashboard.accountColumns ≤ Text.wordLimit →
        ∀ fault, turn.next ≠ .error (.faulty fault) := by
  intro turn
  have showing := showing_openConsole renderer mode dashboard page
  have wide : (openConsole renderer mode dashboard page).dashboard.accountColumns =
      dashboard.accountColumns := by
    cases page <;> rfl
  have sound : Sound renderer dashboard.accountColumns turn := by
    rw [← wide]
    exact (sound_start showing).foldl_advance lines
  constructor
  · intro now reached
    obtain ⟨scope, fresh⟩ := sound.fresh now reached
    obtain ⟨frame, last, shown⟩ := fresh.frame
    rw [sound.drawsWith now reached] at shown
    exact ⟨scope, frame, fresh.showing.scope?, fresh.showing.agrees, shown, last⟩
  · intro output terminal made fits fault
    rw [withOutput_eq, Except.ok.injEq] at made
    exact sound.faultless (by rw [← made]) fits fault

end Console

end WalletScreens.Session

import WalletScreens.Proofs.Scope.Noting
import WalletScreens.Proofs.Session.Filling
import WalletScreens.Proofs.Wallet.Selection
import WalletScreens.Wallet.Demo

/-!
Events that are refused.

An event asks for something that is not there: a scope to toggle, an account to select, a field to
fill or a command.  It leaves one notice that says so, and nothing else.  No other event leaves any,
and the dashboard only changes in steps that ask for a new frame.
-/

namespace WalletScreens.Session

open Scope Theme Wallet

/-- The notice of an event that asks for what is not there. -/
def Event.refusal? (event : Event) (dashboard : Dashboard) (registry : Registry) : Option Notice :=
  match event with
  | .toggle => if registry.isMounted then none else some (.toggleIgnored .notMounted)
  | .select id => if id ∈ dashboard.selection.ids then none else some (.unknownAccount id)
  | .fill field _ =>
      if field ∈ dashboard.page.fields then none else some (.unknownField dashboard.page field)
  | .unknown input => some (.unknownCommand input)
  | .turnTo _ | .submit | .redraw | .quit => none

/-- The notices of the events that are refused while they are handled one after the other. -/
def refusals : List Event → Dashboard → Stage → List Notice
  | [], _, _ => []
  | event :: rest, dashboard, stage =>
      let handled := event.handle dashboard stage
      (event.refusal? dashboard stage.registry).toList ++
        refusals rest handled.dashboard handled.stage

section

variable {event : Event} {dashboard : Dashboard} {stage : Stage} {notice : Notice}

theorem Event.handle_select_of_unknown {id : UInt64} (unknown : id ∉ dashboard.selection.ids) :
    (Event.select id).handle dashboard stage =
      { step := .readOn false, dashboard, stage := stage.note [.unknownAccount id] } := by
  rw [Event.handle, Dashboard.select, Selection.select_of_unknown unknown]
  rfl

theorem Event.handle_select_of_known {id : UInt64} (known : id ∈ dashboard.selection.ids) :
    (Event.select id).handle dashboard stage =
      { step := .readOn true
        dashboard := { dashboard with
          selection := { dashboard.selection with selected := some id } }
        stage := stage.note [] } := by
  obtain ⟨account, first⟩ := Selection.exists_first known
  rw [Event.handle, Dashboard.select, Selection.select_of_first first]
  rfl

theorem Event.handle_fill_of_unknown {field value : String}
    (unknown : field ∉ dashboard.page.fields) :
    (Event.fill field value).handle dashboard stage =
      { step := .readOn false
        written := fieldHint dashboard.page
        dashboard
        stage := stage.note [.unknownField dashboard.page field] } := by
  rw [Event.handle, Dashboard.setField, (Forms.put?_eq_none_iff ..).mpr unknown]
  rfl

theorem Event.handle_fill_of_known (value : String) (stage : Stage) {field : String}
    (known : field ∈ dashboard.page.fields) :
    ∃ forms, (Event.fill field value).handle dashboard stage =
      { step := .readOn true, dashboard := { dashboard with forms }, stage := stage.note [] } := by
  obtain ⟨forms, filled⟩ := Option.isSome_iff_exists.mp
    ((dashboard.forms.isSome_put?_iff dashboard.page field value).mpr known)
  refine ⟨forms, ?_⟩
  rw [Event.handle, Dashboard.setField, filled]
  rfl

theorem Event.notices_handle (event : Event) (dashboard : Dashboard) (stage : Stage) :
    (event.handle dashboard stage).stage.notices =
      stage.notices ++ (event.refusal? dashboard stage.registry).toList := by
  cases event with
  | toggle =>
      rw [refusal?]
      cases mounted : stage.registry.isMounted with
      | true =>
          rw [if_pos rfl, Option.toList_none, List.append_nil]
          exact (Stage.heeded_requestToggle mounted).notices
      | false =>
          rw [if_neg Bool.false_ne_true, Event.handle, Stage.requestToggle_of_idle mounted]
          rfl
  | select id =>
      rw [refusal?]
      by_cases known : id ∈ dashboard.selection.ids
      · rw [if_pos known, handle_select_of_known known]
        rfl
      · rw [if_neg known, handle_select_of_unknown known]
        rfl
  | fill field value =>
      rw [refusal?]
      by_cases known : field ∈ dashboard.page.fields
      · obtain ⟨forms, filled⟩ := handle_fill_of_known value stage known
        rw [if_pos known, filled]
        rfl
      · rw [if_neg known, handle_fill_of_unknown known]
        rfl
  | unknown input => rfl
  | turnTo | submit | redraw | quit => exact (List.append_nil _).symm

theorem Event.handle_of_refusal
    (refused : event.refusal? dashboard stage.registry = some notice) :
    (event.handle dashboard stage).step = .readOn false ∧
      (event.handle dashboard stage).dashboard = dashboard ∧
      (event.handle dashboard stage).stage = stage.note [notice] := by
  cases event with
  | toggle =>
      obtain ⟨idle, ⟨⟩⟩ := Option.ite_none_left_eq_some.mp refused
      exact ⟨rfl, rfl, Stage.requestToggle_of_idle ((Bool.not_eq_true _).mp idle)⟩
  | select id =>
      obtain ⟨unknown, ⟨⟩⟩ := Option.ite_none_left_eq_some.mp refused
      rw [handle_select_of_unknown unknown]
      exact ⟨rfl, rfl, rfl⟩
  | fill field value =>
      obtain ⟨unknown, ⟨⟩⟩ := Option.ite_none_left_eq_some.mp refused
      rw [handle_fill_of_unknown unknown]
      exact ⟨rfl, rfl, rfl⟩
  | unknown input =>
      cases refused
      exact ⟨rfl, rfl, rfl⟩
  | turnTo | submit | redraw | quit => contradiction

theorem Event.dashboard_of_clean (clean : (event.handle dashboard stage).step = .readOn false) :
    (event.handle dashboard stage).dashboard = dashboard := by
  cases event with
  | select id =>
      by_cases known : id ∈ dashboard.selection.ids
      · rw [handle_select_of_known known] at clean
        cases clean
      · rw [handle_select_of_unknown known]
  | turnTo page =>
      have same : dashboard.page = page := by simpa [Event.handle] using clean
      rw [Event.handle, ← same]
  | fill field value =>
      by_cases known : field ∈ dashboard.page.fields
      · obtain ⟨forms, filled⟩ := handle_fill_of_known value stage known
        rw [filled] at clean
        cases clean
      · rw [handle_fill_of_unknown known]
  | toggle | submit | redraw | quit | unknown => rfl

end

theorem notices_handleAll (events : List Event) (dashboard : Dashboard) (stage : Stage) :
    (handleAll events dashboard stage).2.notices =
      stage.notices ++ refusals events dashboard stage := by
  induction events generalizing dashboard stage with
  | nil => exact (List.append_nil _).symm
  | cons event rest ih =>
      rw [handleAll, ih, event.notices_handle, refusals, List.append_assoc]

/-- The first word of a notice is its level. -/
theorem level_line (notice : Notice) :
    ∃ text, notice.line = "WARN " ++ text ∨ notice.line = "ERROR " ++ text := by
  cases notice with
  | toggleIgnored fault => exact ⟨"theme toggle ignored err=" ++ fault.message, .inr rfl⟩
  | unknownAccount id =>
      exact ⟨"ignoring selection of unknown account id=" ++ toString id.toNat, .inl rfl⟩
  | unknownField page field =>
      exact ⟨"ignoring unknown form field page=" ++ page.name ++ " field=" ++ field, .inl rfl⟩
  | unknownCommand input => exact ⟨"unknown command input=" ++ input, .inl rfl⟩

/-- An event leaves one notice if it is refused and none if it is not, also among others that are
handled before and after it.  Refused, it leaves the dashboard, the registry and all else on the
stage as they were, and it asks for no new frame.  Whatever the event is, a step that asks for no
new frame has changed nothing that the dashboard remembers. -/
theorem refusal_leaves_one_notice (event : Event) (dashboard : Dashboard) (stage : Stage) :
    let handled := event.handle dashboard stage
    handled.stage.notices = stage.notices ++ (event.refusal? dashboard stage.registry).toList ∧
      (∀ notice, event.refusal? dashboard stage.registry = some notice →
        (∃ text, notice.line = "WARN " ++ text ∨ notice.line = "ERROR " ++ text) ∧
          handled.dashboard = dashboard ∧ handled.stage.registry = stage.registry ∧
          handled.stage = stage.note [notice] ∧ handled.step = .readOn false) ∧
      (handled.step = .readOn false → handled.dashboard = dashboard) ∧
      ∀ events, (handleAll events dashboard stage).2.notices =
        stage.notices ++ refusals events dashboard stage := by
  intro handled
  refine ⟨event.notices_handle dashboard stage, fun notice refused => ?_,
    Event.dashboard_of_clean, fun events => notices_handleAll events dashboard stage⟩
  obtain ⟨step, left, noted⟩ := Event.handle_of_refusal refused
  exact ⟨level_line notice, left, (congrArg Stage.registry noted :), noted, step⟩

/-- No account has the number, so the selection stays where it was, on the last account.  Among five
events three are refused. -/
theorem refusal_of_unknown_account :
    let dashboard := ((Dashboard.ofAccounts Demo.accounts).select 3).2.1
    let stage := ({} : Stage).mount.2
    let handled := (Event.select 4).handle dashboard stage
    let events := [.toggle, .select 4, .fill "vote_id" "x", .select 1, .unknown "wat"]
    (Event.select 4).refusal? dashboard stage.registry = some (.unknownAccount 4) ∧
      handled.stage.notices = [.unknownAccount 4] ∧
      handled.stage.registry = stage.registry ∧ handled.step = .readOn false ∧
      handled.dashboard = dashboard ∧ dashboard.selection.selected = some 3 ∧
      (handleAll events dashboard stage).2.notices =
        [.unknownAccount 4, .unknownField .send "vote_id", .unknownCommand "wat"] := by
  intro dashboard stage handled events
  have refused : (Event.select 4).refusal? dashboard stage.registry = some (.unknownAccount 4) := by
    decide
  have among : refusals events dashboard stage =
      [.unknownAccount 4, .unknownField .send "vote_id", .unknownCommand "wat"] := by
    decide
  obtain ⟨noted, kept, clean, run⟩ := refusal_leaves_one_notice (.select 4) dashboard stage
  obtain ⟨-, -, registry, -, step⟩ := kept _ refused
  have all := run events
  rw [refused] at noted
  rw [among] at all
  exact ⟨refused, noted, registry, step, clean step, rfl, all⟩

end WalletScreens.Session

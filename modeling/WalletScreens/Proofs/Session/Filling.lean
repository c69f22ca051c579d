import WalletScreens.Proofs.Wallet.Forms
import WalletScreens.Session.Handle

/-!
What a session keeps of what was typed.

A filling writes to the form of the active page and nowhere else, so each field of each page keeps
what was last written to it while its page was the active one.  A submission gives the form of the
active page away as it is kept.
-/

namespace WalletScreens.Session

open Scope Wallet

/-- The dashboard and the stage that are left of events that are handled one after the other. -/
def handleAll : List Event → Dashboard → Stage → Dashboard × Stage
  | [], dashboard, stage => (dashboard, stage)
  | event :: rest, dashboard, stage =>
      let handled := event.handle dashboard stage
      handleAll rest handled.dashboard handled.stage

/-- The text that an event has for a field of a page, if it is handled while `active` is the active
page. -/
def Event.textFor (event : Event) (active page : Page) (field : String) : Option String :=
  match event with
  | .fill name value => if page = active ∧ field = name then some value else none
  | _ => none

/-- The texts that events have for a field of a page, in the order in which they are handled. -/
def textsFor (page : Page) (field : String) : List Event → Dashboard → Stage → List String
  | [], _, _ => []
  | event :: rest, dashboard, stage =>
      let handled := event.handle dashboard stage
      (event.textFor dashboard.page page field).toList ++
        textsFor page field rest handled.dashboard handled.stage

/-- Only a filling touches the forms. -/
theorem Event.get?_handle (event : Event) (dashboard : Dashboard) (stage : Stage) {page : Page}
    {field : String} (known : field ∈ page.fields) :
    (event.handle dashboard stage).dashboard.forms.get? page field =
      (event.textFor dashboard.page page field).or (dashboard.forms.get? page field) := by
  cases event with
  | fill name value =>
      have filled := dashboard.get?_setField name value page field
      rw [textFor]
      by_cases cell : page = dashboard.page ∧ field = name
      · obtain ⟨rfl, rfl⟩ := cell
        rw [if_pos ⟨rfl, rfl, known⟩] at filled
        rw [if_pos ⟨rfl, rfl⟩]
        exact filled
      · rw [if_neg fun inside => cell ⟨inside.1, inside.2.1⟩] at filled
        rw [if_neg cell]
        exact filled
  | toggle | select | turnTo | submit | redraw | quit | unknown => rfl

theorem get?_handleAll (events : List Event) (dashboard : Dashboard) (stage : Stage) {page : Page}
    {field : String} (known : field ∈ page.fields) :
    (handleAll events dashboard stage).1.forms.get? page field =
      (textsFor page field events dashboard stage).getLast?.or
        (dashboard.forms.get? page field) := by
  induction events generalizing dashboard stage with
  | nil => rfl
  | cons event rest ih =>
      rw [handleAll, ih, event.get?_handle dashboard stage known, textsFor, List.getLast?_append,
        Option.or_assoc]
      cases event.textFor dashboard.page page field <;> rfl

theorem written_submit (dashboard : Dashboard) (stage : Stage) :
    (Event.submit.handle dashboard stage).written =
      (Json.Value.record (dashboard.submit.map fun field => (field.1, .text field.2))).print ++
        "\n" := by
  rw [Event.handle, submission]

/-- After any events each field of each page keeps what was last written to it while its page was
active, or else what it had at the start.  A filling changes nothing at all if the active page has
no such field, and no other cell if it has.  A submission is a record that has the fields of the
active page for its names, each of them once, and what they keep for its values. -/
theorem forms_keep_last_filling (dashboard : Dashboard) (stage : Stage) (events : List Event) :
    let now := (handleAll events dashboard stage).1
    (∀ page, ∀ field ∈ page.fields, ∃ initial, dashboard.forms.get? page field = some initial ∧
        now.forms.get? page field =
          some ((textsFor page field events dashboard stage).getLast?.getD initial)) ∧
      (∀ stage field value,
        let filled := ((Event.fill field value).handle now stage).dashboard
        (field ∉ now.page.fields → filled = now) ∧
          ∀ page name, (page, name) ≠ (now.page, field) →
            filled.forms.get? page name = now.forms.get? page name) ∧
      (now.submit.map Prod.fst).Perm now.page.fields ∧
      (∀ field, now.submit.lookup field = now.forms.get? now.page field) ∧
      ∀ stage, (Event.submit.handle now stage).written =
        (Json.Value.record (now.submit.map fun field => (field.1, .text field.2))).print ++ "\n" := by
  intro now
  refine ⟨?_, ?_, ?_, ?_, ?_⟩
  · intro page field known
    obtain ⟨initial, kept⟩ := Option.isSome_iff_exists.mp
      ((dashboard.forms.isSome_get?_iff page field).mpr known)
    refine ⟨initial, kept, ?_⟩
    rw [get?_handleAll events dashboard stage known, kept]
    cases (textsFor page field events dashboard stage).getLast? <;> rfl
  · intro stage field value filled
    refine ⟨fun unknown => now.setField_of_unknown unknown value, ?_⟩
    intro page name other
    have kept := now.get?_setField field value page name
    rw [if_neg fun cell => other (Prod.ext cell.1 cell.2.1)] at kept
    exact kept
  · exact now.forms.submitted_perm_fields now.page
  · exact now.forms.lookup_submitted now.page
  · exact fun stage => written_submit now stage

/-- Two pages have a field for an amount, and each keeps its own. -/
theorem amounts_kept_apart :
    let events := [.fill "amount" "5", .turnTo .receive, .fill "amount" "6", .fill "receiver" "a1",
      .toggle, .fill "amount" "7", .turnTo .send, .submit]
    let now := (handleAll events (.ofAccounts []) {}).1
    "amount" ∈ Page.send.fields ∧ now.forms.get? .send "amount" = some "5" ∧
      "amount" ∈ Page.receive.fields ∧ now.forms.get? .receive "amount" = some "7" ∧
      "vote_id" ∉ now.page.fields ∧
      ((Event.fill "vote_id" "c2").handle now {}).dashboard = now ∧
      (Page.receive, "amount") ≠ (now.page, "amount") ∧
      ((Event.fill "amount" "8").handle now {}).dashboard.forms.get? .receive "amount" =
        now.forms.get? .receive "amount" := by
  intro events now
  have sends : "amount" ∈ Page.send.fields := by decide
  have receives : "amount" ∈ Page.receive.fields := by decide
  have votes : "vote_id" ∉ now.page.fields := by decide
  have other : (Page.receive, "amount") ≠ (now.page, "amount") := by decide
  obtain ⟨keeps, fills, -⟩ := forms_keep_last_filling (.ofAccounts []) {} events
  obtain ⟨_, -, sent⟩ := keeps .send "amount" sends
  obtain ⟨_, -, received⟩ := keeps .receive "amount" receives
  have sentTexts : textsFor .send "amount" events (.ofAccounts []) {} = ["5"] := by decide
  have receivedTexts : textsFor .receive "amount" events (.ofAccounts []) {} = ["6", "7"] := by
    decide
  rw [sentTexts] at sent
  rw [receivedTexts] at received
  exact ⟨sends, sent, receives, received, votes, (fills {} "vote_id" "c2").1 votes, other,
    (fills {} "amount" "8").2 .receive "amount" other⟩

end WalletScreens.Session

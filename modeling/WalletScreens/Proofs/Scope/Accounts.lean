import WalletScreens.Proofs.Scope.Rendering
import WalletScreens.Proofs.Wallet.Selection

/-!
Passes over the accounts.

A selection is an id.  The list of the account cards compares it with the id of each account, and
the page for receiving looks for the first account that has it.
-/

namespace WalletScreens.Style

theorem Brush.exists_paint_eq (brush : Brush) :
    ∃ before after, ∀ text, brush.paint text = before ++ text ++ after := by
  cases blank : brush.isBlank with
  | true => exact ⟨"", "", fun text => by simp [paint, blank]⟩
  | false => exact ⟨brush.opening, "\x1b[0m", fun text => by simp [paint, blank]⟩

/-- What a style writes around a text does not depend on the text. -/
theorem Sheet.exists_write_eq (sheet : Sheet) (rendition : Rendition) (name : String) :
    ∃ before after, ∀ text, sheet.write rendition name text = before ++ text ++ after := by
  cases tagged : rendition.isTagged with
  | true =>
      let mark := if (sheet.resolve name).isSome then name else name ++ "?"
      refine ⟨"[" ++ mark ++ "]", "[/" ++ mark ++ "]", fun text => ?_⟩
      rw [write, if_pos tagged, applyTagged]
      simp only [mark, String.append_assoc]
  | false =>
      simp only [write, tagged, apply]
      cases sheet.resolve name with
      | none => exact ⟨sheet.missingIndicator ++ " ", "", fun text => by simp⟩
      | some brush =>
          cases rendition.isColored with
          | true => exact brush.exists_paint_eq
          | false => exact ⟨"", "", fun text => by simp⟩

end WalletScreens.Style

namespace WalletScreens.Screen

open Wallet

/-- Whether a card is marked as active: its first line begins with the marker. -/
def isMarked (style : String → String → String) (card : String) : Bool :=
  (style "card.marker" "▌").toList.isPrefixOf card.toList

theorem AddressCard.isMarked_composed {style : String → String → String} {before after : String}
    (around : ∀ text, style "card.marker" text = before ++ text ++ after) (card : AddressCard) :
    isMarked style (card.composed style) = card.active := by
  cases active : card.active with
  | true =>
      simp only [isMarked, composed, active, if_true, String.toList_append, List.append_assoc,
        List.isPrefixOf_iff_prefix, List.prefix_append]
  | false =>
      rw [isMarked, Bool.eq_false_iff, ne_eq, List.isPrefixOf_iff_prefix]
      simp only [composed, active, around, String.toList_append, List.append_assoc,
        List.prefix_append_right_inj]
      simp

theorem AccountCards.map_active_cards (list : AccountCards) :
    list.cards.map (·.active) =
      list.selection.accounts.map fun account => list.selection.selected == some account.id := by
  simp [cards, AddressCard.ofAccount]

end WalletScreens.Screen

namespace WalletScreens.Wallet

theorem Dashboard.address_eq (dashboard : Dashboard) :
    dashboard.address = (dashboard.selection.account?.map (·.spendKey)).getD "" := by
  rw [address]
  cases dashboard.selection.account? <;> rfl

end WalletScreens.Wallet

namespace WalletScreens.Scope

open Screen Style Theme Wallet

theorem isMarked_write (theme : Definition) (rendition : Rendition) (card : AddressCard) :
    let style := theme.styles.write rendition
    isMarked style (card.composed style) = card.active := by
  obtain ⟨before, after, around⟩ := theme.styles.exists_write_eq rendition "card.marker"
  exact card.isMarked_composed around

/-- A pass over the account cards writes one card for each account, and marks those of the accounts
that have the selected id. -/
theorem exists_cards (output : OutputMode) (terminal : Bool) (stage : Stage)
    (scope : ScopeState) (list : AccountCards) (fits : list.width ≤ Text.wordLimit) :
    let renderer : Renderer := ⟨output, terminal, Layout.builtIn⟩
    let marked := isMarked (scope.theme.styles.write (output.rendition terminal))
    ∃ drawn last, stage.renderScope renderer scope (.component (.accountCards list)) =
        (.ok ⟨scope.theme, scope.revision, blocks (drawn ++ [last])⟩, stage) ∧
      (drawn.map marked =
        list.selection.accounts.map fun account => list.selection.selected == some account.id) ∧
      drawn.countP marked = list.selection.selectedCount := by
  intro renderer marked
  let style := scope.theme.styles.write (output.rendition terminal)
  have columns : (Component.accountCards list).columns ≤ Text.wordLimit := fits
  have active : marked ∘ AddressCard.composed style = AddressCard.active :=
    funext fun card => isMarked_write scope.theme _ card
  refine ⟨list.cards.map (AddressCard.composed style), AddAccountCard.composed style {},
    renderScope_written output terminal stage scope columns, ?_, ?_⟩
  · rw [List.map_map, active]
    exact list.map_active_cards
  · rw [List.countP_map, active, AccountCards.cards, List.countP_map]
    rfl

/-- The account cards that a pass marks are those of the accounts that have the selected id.  So
there is at least one if there are accounts, and no other if no two accounts share an id. -/
theorem marks_accounts_of_selected_id (accounts : List Account) (requests : List UInt64)
    (output : OutputMode) (terminal : Bool) :
    let now := (Selection.ofAccounts accounts).selectAll requests
    ∃ renderer, Renderer.withOutput output terminal = .ok renderer ∧
      ∀ (stage : Stage) (scope : ScopeState) (width : Nat), width ≤ Text.wordLimit →
        let marked := isMarked (scope.theme.styles.write (output.rendition terminal))
        ∃ drawn last,
          stage.renderScope renderer scope (.component (.accountCards ⟨now, width⟩)) =
            (.ok ⟨scope.theme, scope.revision, blocks (drawn ++ [last])⟩, stage) ∧
          drawn.map marked = accounts.map (fun account => now.selected == some account.id) ∧
          (accounts ≠ [] → 1 ≤ drawn.countP marked) ∧
          ((accounts.map (·.id)).Nodup → drawn.countP marked ≤ 1) := by
  intro now
  have kept : now.accounts = accounts := Selection.accounts_selectAll _ requests
  have settled : now.Settled := (Selection.settled_ofAccounts accounts).selectAll requests
  refine ⟨_, withOutput_eq output terminal, fun stage scope width fits => ?_⟩
  intro marked
  obtain ⟨drawn, last, written, marks, counted⟩ :=
    exists_cards output terminal stage scope ⟨now, width⟩ fits
  refine ⟨drawn, last, written, kept ▸ marks, fun nonempty => ?_, fun distinct => ?_⟩
  · rw [counted]
    exact settled.selectedCount_pos (kept.symm ▸ nonempty)
  · rw [counted]
    exact Selection.selectedCount_le_one (by rwa [Selection.ids, kept])

/-- Of the demo accounts the one that was asked for is marked. -/
theorem one_marked_of_demo :
    let now := (Selection.ofAccounts Demo.accounts).selectAll [2, 9]
    Demo.accounts ≠ [] ∧ (Demo.accounts.map (·.id)).Nodup ∧ 20 ≤ Text.wordLimit ∧
      ∃ renderer drawn last, Renderer.withOutput .term false = .ok renderer ∧
        let marked := isMarked (Catalog.dark.styles.write .colored)
        Stage.renderScope {} renderer ⟨.dark, 0⟩ (.component (.accountCards ⟨now, 20⟩)) =
            (.ok ⟨Catalog.dark, 0, blocks (drawn ++ [last])⟩, {}) ∧
          drawn.map marked = [false, true, false] ∧ drawn.countP marked = 1 := by
  intro now
  have nonempty : Demo.accounts ≠ [] := List.cons_ne_nil _ _
  have distinct : (Demo.accounts.map (·.id)).Nodup := by decide
  have fits : 20 ≤ Text.wordLimit := by decide
  obtain ⟨renderer, term, draws⟩ := marks_accounts_of_selected_id Demo.accounts [2, 9] .term false
  obtain ⟨drawn, last, written, marks, some, one⟩ := draws {} ⟨.dark, 0⟩ 20 fits
  exact ⟨nonempty, distinct, fits, renderer, drawn, last, term, written, marks.trans (by decide),
    Nat.le_antisymm (one distinct) (some nonempty)⟩

/-- A file may list two accounts with one id.  Then both are marked. -/
theorem two_marked_of_shared_id :
    let text := "[[1, \"Ada\", \"a1\", \"a2\"], [1, \"Eve\", \"e1\", \"e2\"]]"
    let accounts : List Account := [⟨1, "Ada", "a1", "a2", 0, 0⟩, ⟨1, "Eve", "e1", "e2", 0, 0⟩]
    Account.parseList text = .ok accounts ∧
      ∃ renderer drawn last, Renderer.withOutput .text false = .ok renderer ∧
        let marked := isMarked (Catalog.dark.styles.write .plain)
        Stage.renderScope {} renderer ⟨.dark, 0⟩
            (.component (.accountCards ⟨.ofAccounts accounts, 48⟩)) =
          (.ok ⟨Catalog.dark, 0, blocks (drawn ++ [last])⟩, {}) ∧
        drawn.map marked = [true, true] ∧ ¬ drawn.countP marked ≤ 1 := by
  intro text accounts
  have read : Account.parseList text = .ok accounts := by decide +kernel
  have two : (Selection.ofAccounts accounts).selectedCount = 2 := by decide
  obtain ⟨drawn, last, written, marks, counted⟩ :=
    exists_cards .text false {} ⟨.dark, 0⟩ ⟨.ofAccounts accounts, 48⟩ (by decide)
  refine ⟨read, _, drawn, last, withOutput_eq .text false, written, marks.trans (by decide),
    fun atMost => ?_⟩
  exact absurd ((counted.trans two).symm.trans_le atMost) (by decide)

/-- What requests to select do, whatever ids the accounts have.  The last request for an id that
there is decides, and of the accounts with that id the first is the selected one: a request gives
it, and the page for receiving shows its key.  A request for any other id leaves a notice and
nothing else. -/
theorem selection_follows_history (accounts : List Account) (requests : List UInt64) :
    let started := Selection.ofAccounts accounts
    let now := started.selectAll requests
    now.accounts = accounts ∧
      (now.selected = none ↔ accounts = []) ∧
      now.selected =
        (requests.filter (· ∈ started.ids)).getLast?.or (accounts.head?.map (·.id)) ∧
      (accounts ≠ [] → ∃ id account, now.selected = some id ∧ IsFirst accounts id account ∧
        now.account? = some account) ∧
      (∀ id ∈ started.ids, ∃ account, IsFirst accounts id account ∧
        now.select id = (some account, ⟨accounts, some id⟩, []) ∧
        (now.select id).2.1.account? = some account) ∧
      (∀ id, id ∉ started.ids → now.select id = (none, now, [.unknownAccount id])) ∧
      ∀ output terminal, ∃ renderer, Renderer.withOutput output terminal = .ok renderer ∧
        ∀ (stage : Stage) (scope : ScopeState) (dashboard : Dashboard),
          stage.renderScope renderer scope
              (.component (.activePage { dashboard with selection := now, page := .receive })) =
            (.ok ⟨scope.theme, scope.revision,
              ReceivePage.composed (scope.theme.styles.write (output.rendition terminal))
                ⟨(now.account?.map (·.spendKey)).getD "", dashboard.forms.receiveAmount,
                  dashboard.width⟩⟩, stage) := by
  intro started now
  have kept : now.accounts = accounts := started.accounts_selectAll requests
  have same : now.ids = started.ids := congrArg (List.map _) kept
  have settled : now.Settled := (Selection.settled_ofAccounts accounts).selectAll requests
  have empty : now.selected = none ↔ accounts = [] := by
    rw [settled.selected_eq_none_iff, kept]
  refine ⟨kept, empty, started.selected_selectAll requests, ?_, ?_, ?_, ?_⟩
  · intro nonempty
    obtain ⟨id, selected⟩ := Option.ne_none_iff_exists'.mp (mt empty.mp nonempty)
    obtain ⟨account, first, found⟩ := settled.exists_account selected
    exact ⟨id, account, selected, kept ▸ first, found⟩
  · intro id known
    obtain ⟨account, first⟩ := Selection.exists_first (same ▸ known)
    have chosen := Selection.select_of_first first
    refine ⟨account, kept ▸ first, by rw [chosen, kept], ?_⟩
    rw [chosen]
    exact Selection.account?_of_selected rfl first
  · intro id unknown
    exact Selection.select_of_unknown (same ▸ unknown)
  · intro output terminal
    refine ⟨_, withOutput_eq output terminal, fun stage scope dashboard => ?_⟩
    rw [renderScope_written output terminal stage scope (Nat.zero_le _)]
    simp only [Component.composed, composedActivePage, Dashboard.address_eq]

/-- Two of three accounts have one id.  Once it is asked for, the first of them is the selected one,
also after a request for an id that there is not. -/
theorem selection_of_shared_id :
    let ada : Account := ⟨7, "Ada", "a1", "a2", 0, 0⟩
    let accounts : List Account := [⟨8, "Bob", "b1", "b2", 5, 1⟩, ada, ⟨7, "Eve", "e1", "e2", 9, 2⟩]
    let started := Selection.ofAccounts accounts
    let now := started.selectAll [7, 8, 9, 7, 5]
    accounts ≠ [] ∧
      (∃ id account, now.selected = some id ∧ IsFirst accounts id account ∧
        now.account? = some account) ∧
      now.selected = some 7 ∧ now.account? = some ada ∧
      7 ∈ started.ids ∧ (∃ account, IsFirst accounts 7 account ∧
        now.select 7 = (some account, ⟨accounts, some 7⟩, [])) ∧
      6 ∉ started.ids ∧ now.select 6 = (none, now, [.unknownAccount 6]) := by
  intro ada accounts started now
  have nonempty : accounts ≠ [] := List.cons_ne_nil _ _
  have known : 7 ∈ started.ids := by decide
  have unknown : 6 ∉ started.ids := by decide
  obtain ⟨-, -, decides, settles, chooses, ignores, -⟩ :=
    selection_follows_history accounts [7, 8, 9, 7, 5]
  obtain ⟨account, first, chosen, -⟩ := chooses 7 known
  exact ⟨nonempty, settles nonempty, decides.trans (by decide), by decide, known,
    ⟨account, first, chosen⟩, unknown, ignores 6 unknown⟩

end WalletScreens.Scope

import Mathlib.Data.List.Induction
import WalletScreens.Wallet.Selection

/-!
Selections over time.

A selection that starts with the first account is only ever moved to an id that some account has.
So it names an account for as long as there are any, and which one it names is told by the requests
alone: the last of them that any account could meet.
-/

namespace WalletScreens.Wallet

/-- The first of the accounts that have an id. -/
def IsFirst (accounts : List Account) (id : UInt64) (account : Account) : Prop :=
  account.id = id ∧
    ∃ before after, accounts = before ++ account :: after ∧ ∀ other ∈ before, other.id ≠ id

namespace Selection

variable {selection : Selection} {id : UInt64} {account : Account}

def ids (selection : Selection) : List UInt64 :=
  selection.accounts.map (·.id)

/-- The selection after requests that are made one after the other. -/
def selectAll (selection : Selection) (requests : List UInt64) : Selection :=
  requests.foldl (fun now id => (now.select id).2.1) selection

theorem find?_eq_some_iff : selection.find? id = some account ↔
    IsFirst selection.accounts id account := by
  rw [find?, IsFirst, List.find?_eq_some_iff_append]
  simp only [beq_iff_eq, Bool.not_eq_true', beq_eq_false_iff_ne]

theorem find?_eq_none_iff : selection.find? id = none ↔ id ∉ selection.ids := by
  simp [find?, ids]

theorem exists_first (known : id ∈ selection.ids) :
    ∃ account, IsFirst selection.accounts id account := by
  cases found : selection.find? id with
  | none => exact absurd known (find?_eq_none_iff.mp found)
  | some account => exact ⟨account, find?_eq_some_iff.mp found⟩

theorem select_of_first (first : IsFirst selection.accounts id account) :
    selection.select id = (some account, { selection with selected := some id }, []) := by
  rw [select, find?_eq_some_iff.mpr first]

theorem select_of_unknown (unknown : id ∉ selection.ids) :
    selection.select id = (none, selection, [.unknownAccount id]) := by
  rw [select, find?_eq_none_iff.mpr unknown]

theorem accounts_select (selection : Selection) (id : UInt64) :
    (selection.select id).2.1.accounts = selection.accounts := by
  rw [select]
  cases selection.find? id <;> rfl

theorem selected_select (selection : Selection) (id : UInt64) :
    (selection.select id).2.1.selected =
      if id ∈ selection.ids then some id else selection.selected := by
  by_cases known : id ∈ selection.ids
  · obtain ⟨account, first⟩ := exists_first known
    rw [select_of_first first, if_pos known]
  · rw [select_of_unknown known, if_neg known]

theorem accounts_selectAll (selection : Selection) (requests : List UInt64) :
    (selection.selectAll requests).accounts = selection.accounts := by
  induction requests generalizing selection with
  | nil => rfl
  | cons id rest ih => exact (ih _).trans (selection.accounts_select id)

/-- The last request for an account that there is decides. -/
theorem selected_selectAll (selection : Selection) (requests : List UInt64) :
    (selection.selectAll requests).selected =
      (requests.filter (· ∈ selection.ids)).getLast?.or selection.selected := by
  induction requests using List.reverseRecOn with
  | nil => rfl
  | append_singleton requests id ih =>
      have same : (selection.selectAll requests).ids = selection.ids :=
        congrArg (List.map _) (selection.accounts_selectAll requests)
      have last : (selection.selectAll (requests ++ [id])).selected =
          if id ∈ selection.ids then some id else (selection.selectAll requests).selected := by
        rw [selectAll, List.foldl_append]
        exact same ▸ selected_select (selection.selectAll requests) id
      rw [last, List.filter_append]
      by_cases known : id ∈ selection.ids
      · simp [known]
      · simpa [known] using ih

/-- Where there are accounts, one of them is selected. -/
structure Settled (selection : Selection) : Prop where
  selected_eq_none_iff : selection.selected = none ↔ selection.accounts = []
  known : ∀ id ∈ selection.selected, id ∈ selection.ids

theorem settled_ofAccounts (accounts : List Account) : (ofAccounts accounts).Settled := by
  cases accounts with
  | nil => exact ⟨by simp [ofAccounts], by simp [ofAccounts]⟩
  | cons account rest => exact ⟨by simp [ofAccounts], by simp [ofAccounts, ids]⟩

theorem Settled.select (settled : selection.Settled) (id : UInt64) :
    (selection.select id).2.1.Settled := by
  by_cases known : id ∈ selection.ids
  · obtain ⟨account, first⟩ := exists_first known
    rw [select_of_first first]
    have nonempty : selection.accounts ≠ [] := by
      intro empty
      simp [ids, empty] at known
    exact ⟨by simp [nonempty], fun other same => Option.mem_some_iff.mp same ▸ known⟩
  · rw [select_of_unknown known]
    exact settled

theorem Settled.selectAll (settled : selection.Settled) (requests : List UInt64) :
    (selection.selectAll requests).Settled := by
  induction requests generalizing selection with
  | nil => exact settled
  | cons id rest ih => exact ih (settled.select id)

theorem account?_of_selected (selected : selection.selected = some id)
    (first : IsFirst selection.accounts id account) : selection.account? = some account := by
  rw [account?, selected]
  exact find?_eq_some_iff.mpr first

theorem Settled.exists_account (settled : selection.Settled)
    (selected : selection.selected = some id) :
    ∃ account, IsFirst selection.accounts id account ∧ selection.account? = some account := by
  obtain ⟨account, first⟩ := exists_first (settled.known id selected)
  exact ⟨account, first, account?_of_selected selected first⟩

/-- How many of the accounts have the selected id. -/
def selectedCount (selection : Selection) : Nat :=
  selection.accounts.countP fun account => selection.selected == some account.id

theorem selectedCount_eq (selected : selection.selected = some id) :
    selection.selectedCount = selection.ids.count id := by
  rw [selectedCount, ids, List.count, List.countP_map, selected]
  refine List.countP_congr fun account _ => ?_
  simp only [beq_iff_eq, Option.some.injEq, Function.comp_apply]
  exact eq_comm

theorem Settled.selectedCount_pos (settled : selection.Settled)
    (nonempty : selection.accounts ≠ []) : 0 < selection.selectedCount := by
  obtain ⟨id, selected⟩ :=
    Option.ne_none_iff_exists'.mp (mt settled.selected_eq_none_iff.mp nonempty)
  rw [selectedCount_eq selected]
  exact List.count_pos_iff.mpr (settled.known id selected)

theorem selectedCount_le_one (distinct : selection.ids.Nodup) : selection.selectedCount ≤ 1 := by
  cases selected : selection.selected with
  | none => simp [selectedCount, selected]
  | some id => exact selectedCount_eq selected ▸ List.nodup_iff_count.mp distinct id

end Selection

end WalletScreens.Wallet

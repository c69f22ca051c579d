import Mathlib.Data.List.Perm.Basic
import WalletScreens.Wallet.Dashboard

/-!
The forms as a store.

A cell is a field of a page's form.  What is put into a cell is read from it, and no other cell is
touched, not even one of the same name on another page.
-/

namespace WalletScreens.Wallet

variable {forms after : Forms} {page : Page} {field value : String}

namespace Forms

theorem isSome_get?_iff (forms : Forms) (page : Page) (field : String) :
    (forms.get? page field).isSome = true ↔ field ∈ page.fields := by
  cases page <;> simp only [get?, Page.fields, List.mem_cons, List.not_mem_nil, or_false] <;>
    split <;> simp_all

theorem isSome_put?_iff (forms : Forms) (page : Page) (field value : String) :
    (forms.put? page field value).isSome = true ↔ field ∈ page.fields := by
  have same : (forms.put? page field value).isSome = (forms.get? page field).isSome := by
    cases page <;> grind [put?, get?]
  rw [same, isSome_get?_iff]

theorem put?_eq_none_iff (forms : Forms) (page : Page) (field value : String) :
    forms.put? page field value = none ↔ field ∉ page.fields := by
  rw [← isSome_put?_iff forms page field value, Bool.not_eq_true, Option.isSome_eq_false_iff,
    Option.isNone_iff_eq_none]

theorem get?_put? (stored : forms.put? page field value = some after) (other : Page)
    (name : String) :
    after.get? other name =
      if other = page ∧ name = field then some value else forms.get? other name := by
  cases page with
  | send =>
      rw [put?] at stored
      split at stored
      · cases stored
        cases other <;> grind [get?]
      · split at stored
        · cases stored
          cases other <;> grind [get?]
        · contradiction
  | receive =>
      rw [put?] at stored
      split at stored
      · cases stored
        cases other <;> grind [get?]
      · contradiction
  | voting =>
      rw [put?] at stored
      split at stored
      · cases stored
        cases other <;> grind [get?]
      · contradiction

theorem submitted_perm_fields (forms : Forms) (page : Page) :
    ((forms.submitted page).map Prod.fst).Perm page.fields := by
  cases page with
  | send => exact .swap ..
  | receive => exact .refl _
  | voting => exact .refl _

theorem lookup_submitted (forms : Forms) (page : Page) (field : String) :
    (forms.submitted page).lookup field = forms.get? page field := by
  cases page <;> grind [submitted, get?]

end Forms

namespace Dashboard

theorem setField_of_unknown (dashboard : Dashboard) (unknown : field ∉ dashboard.page.fields)
    (value : String) : (dashboard.setField field value).2.1 = dashboard := by
  rw [setField, (Forms.put?_eq_none_iff ..).mpr unknown]

theorem get?_setField (dashboard : Dashboard) (field value : String) (page : Page) (name : String) :
    (dashboard.setField field value).2.1.forms.get? page name =
      if page = dashboard.page ∧ name = field ∧ field ∈ dashboard.page.fields then some value
      else dashboard.forms.get? page name := by
  rw [setField]
  cases stored : dashboard.forms.put? dashboard.page field value with
  | none =>
      have unknown := (Forms.put?_eq_none_iff ..).mp stored
      rw [if_neg fun cell => unknown cell.2.2]
  | some forms =>
      have known : field ∈ dashboard.page.fields := by
        rw [← Forms.isSome_put?_iff dashboard.forms dashboard.page field value, stored]
        rfl
      simp only [Forms.get?_put? stored, known, and_true]

end Dashboard

end WalletScreens.Wallet

import WalletScreens.Proofs.Text.Counting
import WalletScreens.Text.Column

/-!
How wide a text is that was cut.

What is kept of a text has room by the columns of its characters.  A text as a whole can take more:
controls have no columns of their own but take one each, and a selector makes a base wider.  A cut
text exceeds its limit by these at most, and with controls in it, it does.
-/

namespace WalletScreens.Text

theorem sum_fitting_le (budget : Nat) (chars : List Char) :
    ((fitting budget chars).map charWidth).sum ≤ budget := by
  induction chars generalizing budget with
  | nil => exact Nat.zero_le _
  | cons c rest ih =>
      rw [fitting]
      split
      · rename_i fits
        have others := ih (budget - charWidth c)
        rw [List.map_cons, List.sum_cons]
        omega
      · exact Nat.zero_le _

theorem charWidth_ellipsis : charWidth '…' = 1 := by decide +kernel

/-- The ellipsis selects nothing. -/
theorem surplusOf_append_ellipsis (chars : List Char) :
    surplusOf (chars ++ ['…']) = surplusOf chars := by
  induction chars with
  | nil => decide +kernel
  | cons c rest ih =>
      have same : surplus c (rest ++ ['…']) = surplus c rest := by
        cases rest with
        | nil => simp [surplus]
        | cons => rfl
      rw [List.cons_append, surplusOf, surplusOf, ih, same]

theorem width_truncate_le {limit : Nat} (room : 1 ≤ limit) (text : String) :
    width (truncate text limit).toList ≤
      limit + surplusOf (fitting (limit - 1) text.toList) := by
  rcases Nat.lt_or_ge limit (width text.toList) with wide | fits
  · rw [truncate_of_lt wide, String.toList_ofList]
    have bounded := width_le (fitting (limit - 1) text.toList ++ ['…'])
    have fits := sum_fitting_le (limit - 1) text.toList
    rw [surplusOf_append_ellipsis, List.map_append, List.sum_append, List.map_singleton,
      List.sum_singleton, charWidth_ellipsis] at bounded
    omega
  · rw [truncate_of_le fits]
    omega

/-- A text that is cut exceeds the limit by no more than the surplus of what is kept: one column for
each control, and what a selector adds to a base.  Where nothing of the kind is kept, the text is
within its limit. -/
theorem truncate_exceeds_by_surplus (text : String) (limit : Nat) (room : 1 ≤ limit) :
    width (truncate text limit).toList ≤ limit + surplusOf (fitting (limit - 1) text.toList) ∧
      ((∀ c ∈ fitting (limit - 1) text.toList, isControl c = false ∧ c ≠ '\uFE0F') →
        width (truncate text limit).toList ≤ limit) := by
  have bounded := width_truncate_le room text
  refine ⟨bounded, fun plain => ?_⟩
  rwa [surplusOf_eq_zero plain] at bounded

/-- A joined emoji and a wide letter after it are kept within the limit. -/
theorem truncate_of_joined_emoji :
    let text := "👩\u200d🚀投票投票"
    1 ≤ 7 ∧ fitting 6 text.toList = ['👩', '\u200d', '🚀', '投'] ∧
      (∀ c ∈ fitting 6 text.toList, isControl c = false ∧ c ≠ '\uFE0F') ∧
      width (truncate text 7).toList ≤ 7 := by
  intro text
  have kept : fitting 6 text.toList = ['👩', '\u200d', '🚀', '投'] := by decide +kernel
  have plain : ∀ c ∈ fitting 6 text.toList, isControl c = false ∧ c ≠ '\uFE0F' := by
    rw [kept]
    -- Spelled out member by member: there are too many characters to decide it over all of them.
    simp only [List.mem_cons, List.not_mem_nil, or_false, forall_eq_or_imp, forall_eq]
    decide
  exact ⟨by decide, kept, plain, (truncate_exceeds_by_surplus text 7 (by decide)).2 plain⟩

/-- Two tabs do not fit one column, but have no columns of their own by which they would be cut. -/
theorem truncate_of_tabs_exceeds :
    ¬ ∀ (text : String) (limit : Nat), 1 ≤ limit → width (truncate text limit).toList ≤ limit := by
  intro within
  have short := within "\t\t" 1 (Nat.le_refl 1)
  have wide : width (truncate "\t\t" 1).toList = 3 := by decide +kernel
  omega

end WalletScreens.Text

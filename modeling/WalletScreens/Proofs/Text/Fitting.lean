import Mathlib.Data.List.Infix
import WalletScreens.Proofs.Text.Cutting

/-!
The start of a text that is kept when it is cut.

Among the starts of a text whose characters fit a budget it is the longest: its own starts are those
and no others.  So what is kept under a budget, and kept again under another, is what the smaller
budget keeps; and a text that is cut is cut to the longest start that leaves room for the ellipsis.
-/

namespace WalletScreens.Text

variable {chars start : List Char} {budget : Nat}

/-- The starts of what is kept are the starts of the text that fit. -/
theorem prefix_fitting_iff :
    start <+: fitting budget chars ↔ start <+: chars ∧ (start.map charWidth).sum ≤ budget := by
  induction chars generalizing budget start with
  | nil =>
      rw [fitting, List.prefix_nil]
      constructor
      · rintro rfl
        exact ⟨rfl, Nat.zero_le _⟩
      · exact And.left
  | cons c rest ih =>
      cases start with
      | nil => simp
      | cons d start =>
          rw [fitting]
          split
          · rename_i fits
            rw [List.cons_prefix_cons, List.cons_prefix_cons, ih, List.map_cons, List.sum_cons,
              and_assoc]
            refine and_congr_right ?_
            rintro rfl
            exact and_congr_right fun _ => by omega
          · rename_i wide
            rw [List.cons_prefix_cons, List.map_cons, List.sum_cons]
            refine iff_of_false (by simp) ?_
            rintro ⟨⟨rfl, -⟩, fits⟩
            omega

theorem fitting_isPrefix (budget : Nat) (chars : List Char) : fitting budget chars <+: chars :=
  (prefix_fitting_iff.mp List.prefix_rfl).1

/-- Two texts with the same starts are the same. -/
theorem eq_of_same_starts {first second : List Char}
    (same : ∀ start, start <+: first ↔ start <+: second) : first = second :=
  ((same first).mp List.prefix_rfl).eq_of_length_le ((same second).mpr List.prefix_rfl).length_le

theorem fitting_fitting (first second : Nat) (chars : List Char) :
    fitting second (fitting first chars) = fitting (min first second) chars := by
  refine eq_of_same_starts fun start => ?_
  rw [prefix_fitting_iff, prefix_fitting_iff, prefix_fitting_iff, and_assoc, Nat.le_min]

/-- A text that fits is kept whole. -/
theorem fitting_of_le (fits : (chars.map charWidth).sum ≤ budget) : fitting budget chars = chars :=
  (fitting_isPrefix budget chars).eq_of_length_le
    (prefix_fitting_iff.mpr ⟨List.prefix_rfl, fits⟩).length_le

/-- A last character that does not fit makes no difference. -/
theorem fitting_append_of_lt {c : Char}
    (wide : budget < (chars.map charWidth).sum + charWidth c) :
    fitting budget (chars ++ [c]) = fitting budget chars := by
  refine eq_of_same_starts fun start => ?_
  rw [prefix_fitting_iff, prefix_fitting_iff, List.prefix_concat_iff]
  constructor
  · rintro ⟨rfl | shorter, fits⟩
    · rw [List.map_append, List.sum_append, List.map_singleton, List.sum_singleton] at fits
      omega
    · exact ⟨shorter, fits⟩
  · rintro ⟨shorter, fits⟩
    exact ⟨.inr shorter, fits⟩

/-- Among the starts of a text whose characters fit a budget, the one that has all others as its own
starts. -/
structure IsLongestStart (budget : Nat) (chars start : List Char) : Prop where
  isPrefix : start <+: chars
  fits : (start.map charWidth).sum ≤ budget
  longest : ∀ other, other <+: chars → (other.map charWidth).sum ≤ budget → other <+: start

theorem isLongestStart_iff : IsLongestStart budget chars start ↔ start = fitting budget chars := by
  constructor
  · rintro ⟨before, fits, longest⟩
    have kept := prefix_fitting_iff.mp (List.prefix_refl (fitting budget chars))
    have shorter : start <+: fitting budget chars := prefix_fitting_iff.mpr ⟨before, fits⟩
    exact shorter.eq_of_length_le (longest _ kept.1 kept.2).length_le
  · rintro rfl
    exact ⟨fitting_isPrefix _ _, sum_fitting_le _ _, fun _ before fits =>
      prefix_fitting_iff.mpr ⟨before, fits⟩⟩

/-- A text within the limit stays as it is.  Any other is cut to the one start of it that is longest
among those that leave a column for the ellipsis, by the columns of their characters alone. -/
theorem truncation_keeps_longest_start (text : String) (limit : Nat) :
    (width text.toList ≤ limit → truncate text limit = text) ∧
      (limit < width text.toList →
        ∃ kept, (truncate text limit).toList = kept ++ ['…'] ∧
          ∀ start, IsLongestStart (limit - 1) text.toList start ↔ start = kept) := by
  refine ⟨truncate_of_le, fun wide => ?_⟩
  refine ⟨fitting (limit - 1) text.toList, ?_, fun start => isLongestStart_iff⟩
  rw [truncate_of_lt wide, String.toList_ofList]

/-- The tab takes one of the seven columns, but none of the budget for what is kept. -/
theorem truncation_of_tab_and_joined_emoji :
    let text := "\t👩\u200d🚀投票"
    width text.toList ≤ 7 ∧ truncate text 7 = text ∧ 6 < width text.toList ∧
      IsLongestStart 5 text.toList ['\t', '👩', '\u200d', '🚀'] ∧
      truncate text 6 = "\t👩\u200d🚀…" := by
  intro text
  have columns : width text.toList = 7 := by decide +kernel
  have cut : truncate text 6 = "\t👩\u200d🚀…" := by decide +kernel
  obtain ⟨whole, -⟩ := truncation_keeps_longest_start text 7
  obtain ⟨kept, shown, longest⟩ := (truncation_keeps_longest_start text 6).2 (by omega)
  refine ⟨by omega, whole (by omega), by omega, (longest _).mpr ?_, cut⟩
  rw [cut] at shown
  have same : ['\t', '👩', '\u200d', '🚀'] ++ ['…'] = kept ++ ['…'] := shown
  exact List.append_cancel_right same

end WalletScreens.Text

import Mathlib.Algebra.GroupWithZero.Nat
import WalletScreens.Text.Width

/-!
Columns counted from the right.

A character may take a column back that was counted for those behind it, and regional letters
before a joiner are counted late.  What may still be taken back, and what is still to come, can be
told from the memory of the reading.  So no count ever falls below zero, and a text takes at most
the columns of its characters and those that controls and selectors add.
-/

namespace WalletScreens.Text

open Tables

namespace Follow

/-- Columns that were counted and that the next character may take back. -/
def lent : Follow → Nat
  | .khmerLetter | .tifinaghJoiner | .joinedRegional | .joinedOdd => 1
  | _ => 0

/-- Columns that are still to come of characters that were read. -/
def owed : Follow → Nat
  | .joinedEven => 2
  | _ => 0

@[simp] theorem lent_withJoiner (follow : Follow) : follow.withJoiner.lent = follow.lent := by
  cases follow <;> rfl

@[simp] theorem owed_withJoiner (follow : Follow) : follow.withJoiner.owed = follow.owed := by
  cases follow <;> rfl

end Follow

/-- A step that takes back no more than was lent, and that counts no more than its room and what is
owed. -/
structure Balanced (follow : Follow) (room : Nat) (step : Int × Follow) : Prop where
  lent : step.2.lent ≤ step.1 + follow.lent
  owed : step.1 + step.2.owed ≤ room + follow.owed

variable {c : Char} {rest : List Char} {follow next : Follow} {ahead : Ahead} {columns : Int}
  {room : Nat} {step : Int × Follow}

namespace Balanced

theorem mono {more : Nat} (balanced : Balanced follow room step) (le : room ≤ more) :
    Balanced follow more step :=
  ⟨balanced.lent, by have owed := balanced.owed; omega⟩

theorem stay (follow : Follow) (room : Nat) : Balanced follow room (0, follow) :=
  ⟨by dsimp only; omega, by dsimp only; omega⟩

/-- A memory that lends and owes nothing may follow on any. -/
theorem settled (lent : next.lent = 0) (owed : next.owed = 0) (nonneg : 0 ≤ columns)
    (fits : columns ≤ room) : Balanced follow room (columns, next) :=
  ⟨by simp only [lent]; omega, by simp only [owed]; omega⟩

theorem of_unselected (balanced : Balanced ahead.unselected room step) :
    Balanced ahead.follow room step := by
  have either : ahead.unselected = ahead.follow ∨ ahead.unselected = .plain := by
    unfold Ahead.unselected
    repeat' split
    all_goals simp
  rcases either with same | plain
  · rwa [← same]
  · rw [plain] at balanced
    obtain ⟨lent, owed⟩ := balanced
    have none : Follow.plain.lent = 0 ∧ Follow.plain.owed = 0 := ⟨rfl, rfl⟩
    exact ⟨by omega, by omega⟩

end Balanced

/-- Only the regional letters, a Tifinagh joiner and a Kirat vowel take columns where they join, and
they have some of their own. -/
theorem balanced_joined (joins : joined c follow = some step) :
    Balanced follow (charWidth c) step := by
  have own {code : Nat} (same : (c.toNat == code) = true) :
      charWidth c = charWidth (Char.ofNat code) := by
    rw [← beq_iff_eq.mp same, Char.ofNat_toNat]
  have joiner (same : (c.toNat == 0x2D7F) = true) : 0 < charWidth c := by
    rw [own same]
    decide +kernel
  have vowel (same : (c.toNat == 0x16D68) = true) : 0 < charWidth c := by
    rw [own same]
    decide +kernel
  clear own
  unfold joined at joins
  extract_lets code at joins
  split at joins <;> (repeat' split at joins) <;> cases joins
  -- What joins either settles, or counts for what has a column, or hands on what it found.
  all_goals first
    | exact .settled rfl rfl (by decide) (Int.natCast_nonneg _)
    | have positive : 0 < charWidth c := by
        first
          | exact charWidth_pos_of_isRegional (by assumption)
          | exact joiner (by assumption)
          | exact vowel (by assumption)
      constructor <;> simp only [Follow.lent, Follow.owed] <;> omega
    | constructor <;> simp only [Follow.lent, Follow.owed] <;> omega

/-- Only a Khmer letter lends, and it has a column to lend. -/
theorem balanced_alone (beyond : 0xA0 < c.toNat) (follow : Follow) :
    Balanced follow (charWidth c) (alone c) := by
  have plain {next : Follow} (lent : next.lent = 0) (owed : next.owed = 0) :
      Balanced follow (charWidth c) (printedWidth c, next) :=
    .settled lent owed (Int.natCast_nonneg _)
      (Int.ofNat_le.mpr (Nat.le_of_eq (charWidth_of_beyond beyond).symm))
  have either {p : Prop} [Decidable p] {next : Follow} {other : Int × Follow}
      (lent : next.lent = 0) (owed : next.owed = 0)
      (stands : Balanced follow (charWidth c) other) :
      Balanced follow (charWidth c) (if p then (↑(printedWidth c), next) else other) :=
    iteInduction (fun _ => plain lent owed) fun _ => stands
  unfold alone
  extract_lets code width
  refine either rfl rfl (either rfl rfl (iteInduction (fun letter => ?_) fun _ => ?_))
  · have own := charWidth_pos_of_isKhmerLetter letter
    rw [charWidth_of_beyond beyond] at own ⊢
    exact ⟨by simp only [Follow.lent]; omega, by simp only [Follow.owed]; omega⟩
  · repeat refine either rfl rfl ?_
    exact plain rfl rfl

theorem balanced_select (follow : Follow) (selector : Selector) :
    Balanced follow (charWidth c) (0, (Ahead.select follow selector).follow) := by
  unfold Ahead.select
  split
  · exact .stay follow _
  · exact .settled rfl rfl (Int.le_refl _) (Int.natCast_nonneg _)

theorem balanced_beyondLatin (beyond : 0xA0 < c.toNat) (follow : Follow) :
    Balanced follow (charWidth c)
      ((beyondLatin c follow).1, (beyondLatin c follow).2.follow) := by
  unfold beyondLatin
  extract_lets code
  split
  · exact balanced_select follow .emoji
  · split
    · exact balanced_select follow .text
    · split
      · exact ⟨by simp only [Follow.lent_withJoiner]; omega,
          by simp only [Follow.owed_withJoiner]; omega⟩
      · split
        · exact .stay follow _
        · cases joins : joined c follow with
          | none => exact balanced_alone beyond follow
          | some step => exact balanced_joined joins

/-- Columns that a character in front of `rest` takes beyond its own: a control, which has none,
takes one, and a base that is made an emoji takes two in all. -/
def surplus (c : Char) (rest : List Char) : Nat :=
  if presentationBase.holds c = true ∧ rest.head? = some '\uFE0F' then 2 - charWidth c
  else if isControl c then 1 else 0

theorem one_le_of_latin (latin : c.toNat ≤ 0xA0) (rest : List Char) :
    1 ≤ charWidth c + surplus c rest := by
  have printed : printedWidth c = 1 := if_pos latin
  unfold surplus charWidth
  rw [printed]
  split <;> split <;> simp

theorem balanced_latinStep (latin : c.toNat ≤ 0xA0) (rest : List Char) (follow : Follow) :
    Balanced follow (charWidth c + surplus c rest)
      ((latinStep c follow).1, (latinStep c follow).2.follow) := by
  have one := one_le_of_latin latin rest
  unfold latinStep
  repeat' split
  all_goals exact .settled rfl rfl (by decide) (by omega)

theorem balanced_widthStep
    (selected : ahead.selector = some .emoji → rest.head? = some '\uFE0F') :
    Balanced ahead.follow (charWidth c + surplus c rest)
      ((widthStep c ahead).1, (widthStep c ahead).2.follow) := by
  unfold widthStep
  split
  · rename_i emoji
    have added : surplus c rest = 2 - charWidth c := if_pos ⟨emoji.2, selected emoji.1⟩
    rw [added]
    split <;> exact .settled rfl rfl (by decide) (by omega)
  · split
    · rename_i text
      have own := charWidth_pos_of_takesTextSelector text.2
      exact .settled rfl rfl (by decide) (by omega)
    · split
      · rename_i latin
        exact (balanced_latinStep latin rest _).of_unselected
      · rename_i beyond
        have balanced := balanced_beyondLatin (Nat.lt_of_not_le beyond) ahead.unselected
        exact (balanced.mono (Nat.le_add_right _ _)).of_unselected

/-- An emoji selector is pending only right behind it. -/
theorem selector_widthStep (pending : (widthStep c ahead).2.selector = some .emoji) :
    c = '\uFE0F' := by
  unfold widthStep at pending
  split at pending
  · cases pending
  · split at pending
    · cases pending
    · split at pending
      · unfold latinStep at pending
        repeat' split at pending
        all_goals cases pending
      · unfold beyondLatin at pending
        extract_lets code at pending
        split at pending
        · rename_i code
          exact Char.toNat_inj.mp (beq_iff_eq.mp code)
        · split at pending
          · unfold Ahead.select at pending
            split at pending <;> cases pending
          · repeat' split at pending
            all_goals cases pending

theorem selector_scanWidth {chars : List Char}
    (pending : (scanWidth chars).2.selector = some .emoji) : chars.head? = some '\uFE0F' := by
  cases chars with
  | nil => cases pending
  | cons c rest => exact congrArg some (selector_widthStep pending)

def surplusOf : List Char → Nat
  | [] => 0
  | c :: rest => surplus c rest + surplusOf rest

/-- What the memory lends was counted, and what it owes is not yet. -/
theorem balanced_scanWidth (chars : List Char) :
    (scanWidth chars).2.follow.lent ≤ (scanWidth chars).1 ∧
      (scanWidth chars).1 + (scanWidth chars).2.follow.owed ≤
        (chars.map charWidth).sum + surplusOf chars := by
  induction chars with
  | nil => decide
  | cons c rest ih =>
      obtain ⟨counted, bounded⟩ := ih
      obtain ⟨lent, owed⟩ := @balanced_widthStep c rest _ selector_scanWidth
      rw [scanWidth, surplusOf, List.map_cons, List.sum_cons]
      dsimp only at lent owed ⊢
      omega

/-- A text takes at most the columns of its characters and the surplus. -/
theorem width_le (chars : List Char) :
    width chars ≤ (chars.map charWidth).sum + surplusOf chars := by
  have bounded := (balanced_scanWidth chars).2
  rw [width]
  omega

theorem surplusOf_eq_zero {chars : List Char}
    (plain : ∀ c ∈ chars, isControl c = false ∧ c ≠ '\uFE0F') : surplusOf chars = 0 := by
  induction chars with
  | nil => rfl
  | cons c rest ih =>
      obtain ⟨⟨printed, -⟩, others⟩ := List.forall_mem_cons.mp plain
      have unselected : rest.head? ≠ some '\uFE0F' := fun selected =>
        (others _ (List.mem_of_head? selected)).2 rfl
      rw [surplusOf, ih others, surplus, if_neg (fun selected => unselected selected.2), printed,
        if_neg Bool.false_ne_true]

end WalletScreens.Text

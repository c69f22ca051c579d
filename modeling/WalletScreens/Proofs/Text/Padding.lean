import WalletScreens.Proofs.Text.Escape
import WalletScreens.Proofs.Text.Recutting

/-!
Texts side by side.

A space goes on with no escape sequence, not even an unfinished one, and no character joins it.  So
two texts with a space between them are measured apart, whatever they are, and a text that is padded
takes exactly the columns that were asked for.
-/

namespace WalletScreens.Text

namespace Escape

theorem Progress.step_space (progress : Progress) : progress.step ' ' = none := by
  cases progress <;> rfl

/-- A sequence that is still open in front of a space ends where it would at the end of the text. -/
theorem remaining_append_space (progress : Progress) (chars rest : List Char) :
    remaining progress (chars ++ ' ' :: rest) = remaining progress chars := by
  induction chars generalizing progress with
  | nil =>
      simp only [List.nil_append, remaining, Progress.step_space, Option.bind_none]
  | cons c chars ih =>
      rw [List.cons_append, remaining, remaining]
      simp only [ih]

theorem remaining_le_length {progress : Progress} {chars : List Char} {count : Nat}
    (found : remaining progress chars = some count) : count ≤ chars.length := by
  induction chars generalizing progress count with
  | nil =>
      rw [remaining] at found
      split at found <;> cases found
      exact Nat.le_refl 0
  | cons c chars ih =>
      rw [remaining] at found
      split at found
      · rename_i longest
        obtain ⟨next, -, later⟩ := Option.bind_eq_some_iff.mp longest
        cases found
        exact Nat.succ_le_succ (ih later)
      · split at found <;> cases found
        exact Nat.zero_le _

theorem stripAfter_append_space {skipped : Nat} {chars : List Char}
    (within : skipped ≤ chars.length) (rest : List Char) :
    stripAfter skipped (chars ++ ' ' :: rest) = stripAfter skipped chars ++ ' ' :: strip rest := by
  induction chars generalizing skipped with
  | nil =>
      obtain rfl : skipped = 0 := Nat.le_zero.mp within
      have ordinary : isStart ' ' = false := by decide
      simp only [List.nil_append, stripAfter, ordinary, Bool.false_eq_true, if_false]
      rfl
  | cons c chars ih =>
      cases skipped with
      | succ skipped => exact ih (Nat.le_of_succ_le_succ within)
      | zero =>
          rw [List.cons_append, stripAfter, stripAfter, remaining_append_space]
          split
          · split
            · rename_i count found
              exact ih (remaining_le_length found)
            · rw [ih (Nat.zero_le _), List.cons_append]
          · rw [ih (Nat.zero_le _), List.cons_append]

theorem strip_append_space (chars rest : List Char) :
    strip (chars ++ ' ' :: rest) = strip chars ++ ' ' :: strip rest :=
  stripAfter_append_space (Nat.zero_le _) rest

end Escape

/-- A space takes its column and forgets what follows it. -/
theorem widthStep_space (ahead : Ahead) : widthStep ' ' ahead = (1, {}) := by
  unfold widthStep
  split
  · rename_i emoji
    exact absurd emoji.2 (by decide +kernel)
  · split
    · rename_i text
      exact absurd text.2 (by decide +kernel)
    · rfl

/-- In front of a text that leaves nothing to be remembered the columns of another are counted as
they are alone.  None of them is lost, as no count falls below zero on the way. -/
theorem scanWidth_append {rest : List Char} (forgets : (scanWidth rest).2 = {})
    (chars : List Char) :
    scanWidth (chars ++ rest) = ((scanWidth chars).1 + width rest, (scanWidth chars).2) := by
  induction chars with
  | nil => exact Prod.ext (Nat.zero_add _).symm forgets
  | cons c chars ih =>
      -- The step may take columns back, but no more than the memory lends, and those are counted.
      have counted := (balanced_scanWidth chars).1
      have lent := (@balanced_widthStep c chars _ selector_scanWidth).lent
      rw [List.cons_append, scanWidth, ih, scanWidth]
      dsimp only at lent ⊢
      refine Prod.ext ?_ rfl
      dsimp only
      omega

theorem width_append_space (chars rest : List Char) :
    width (chars ++ ' ' :: rest) = width chars + 1 + width rest := by
  have space : scanWidth (' ' :: rest) = (width rest + 1, {}) := by
    rw [scanWidth]
    dsimp only
    rw [widthStep_space]
    rfl
  have whole := scanWidth_append (congrArg Prod.snd space) chars
  rw [width, whole, width, width, space]
  dsimp only
  omega

theorem plain_of_printed {chars : List Char} (printed : ∀ c ∈ chars, isControl c = false) :
    Escape.Plain chars := by
  intro c member
  have shown := printed c member
  cases start : Escape.isStart c with
  | false => rfl
  | true =>
      simp only [Escape.isStart, Bool.or_eq_true, beq_iff_eq] at start
      rcases start with rfl | rfl <;> exact absurd shown (by decide)

/-- Without escape sequences all of a text is measured. -/
theorem measure_of_plain {text : String} (plain : Escape.Plain text.toList) :
    measure text = width text.toList := by
  rw [measure, (Shows.of_plain plain).strip_eq]

theorem width_eq_length {chars : List Char}
    (single : ∀ c ∈ chars, Settled c ∧ charWidth c = 1) : width chars = chars.length := by
  have ones : ∀ columns ∈ chars.map charWidth, columns = 1 := by
    intro columns member
    obtain ⟨c, among, rfl⟩ := List.mem_map.mp member
    exact (single c among).2
  rw [width, scanWidth_of_settled fun c member => (single c member).1,
    List.eq_replicate_of_mem ones, List.sum_replicate_nat, List.length_map, Nat.mul_one]

theorem measure_number (value : Nat) : measure (toString value) = (toString value).length := by
  have digits : ∀ c ∈ ['0', '1', '2', '3', '4', '5', '6', '7', '8', '9'],
      widthStep c {} = (↑(charWidth c), {}) ∧ charWidth c = 1 := by
    -- Member by member: it is not to be decided over all characters that there are.
    simp only [List.forall_mem_cons, List.not_mem_nil, false_implies, implies_true, and_true]
    decide +kernel
  rw [measure_of_plain (plain_number value), ← String.length_toList]
  exact width_eq_length fun c member =>
    digits c (Escape.mem_digits_of_isDigit (isDigit_of_mem_number member))

theorem measure_append_space (text more : String) :
    measure (text ++ " " ++ more) = measure text + 1 + measure more := by
  have apart : (text ++ " " ++ more).toList = text.toList ++ ' ' :: more.toList := by
    rw [String.toList_append, String.toList_append, List.append_assoc]
    rfl
  rw [measure, apart, Escape.strip_append_space, width_append_space]
  rfl

theorem measure_empty : measure "" = 0 := rfl

theorem space_append_spaces (count : Nat) : " " ++ spaces count = spaces (count + 1) := by
  rw [spaces, spaces, List.replicate_succ, String.ofList_cons]
  rfl

theorem spaces_append_space (count : Nat) : spaces count ++ " " = spaces (count + 1) := by
  rw [spaces, spaces, List.replicate_succ', String.ofList_append]

theorem measure_spaces (count : Nat) : measure (spaces count) = count := by
  induction count with
  | zero => exact measure_empty
  | succ count ih =>
      have first := measure_append_space "" (spaces count)
      rw [String.empty_append, space_append_spaces, measure_empty, ih] at first
      omega

theorem measure_append_spaces (text : String) (count : Nat) :
    measure (text ++ spaces count) = measure text + count := by
  cases count with
  | zero => rw [show spaces 0 = "" from rfl, String.append_empty, Nat.add_zero]
  | succ count =>
      rw [← space_append_spaces, ← String.append_assoc, measure_append_space, measure_spaces]
      omega

theorem measure_spaces_append (count : Nat) (text : String) :
    measure (spaces count ++ text) = count + measure text := by
  cases count with
  | zero => rw [show spaces 0 = "" from rfl, String.empty_append, Nat.zero_add]
  | succ count => rw [← spaces_append_space, measure_append_space, measure_spaces]

theorem measure_padRight (text : String) (columns : Nat) :
    measure (padRight text columns) = max columns (measure text) := by
  rw [padRight, measure_append_spaces]
  omega

theorem measure_padLeft (text : String) (columns : Nat) :
    measure (padLeft text columns) = max columns (measure text) := by
  rw [padLeft, measure_spaces_append]
  omega

/-- Padding on either side fills a text up to the columns asked for, as the terminal shows it.  What
is put on a side is spaces, the text itself stays as it is, and one that is too wide stays alone. -/
theorem padding_fills_columns (text : String) (columns : Nat) :
    measure (padRight text columns) = max columns (measure text) ∧
      measure (padLeft text columns) = max columns (measure text) ∧
      (padRight text columns).toList =
        text.toList ++ List.replicate (columns - measure text) ' ' ∧
      (padLeft text columns).toList =
        List.replicate (columns - measure text) ' ' ++ text.toList := by
  refine ⟨measure_padRight text columns, measure_padLeft text columns, ?_, ?_⟩
  · rw [padRight, String.toList_append, spaces, String.toList_ofList]
  · rw [padLeft, String.toList_append, spaces, String.toList_ofList]

/-- A code that is not finished takes columns, and the spaces do not finish it. -/
example : padRight "ab\x1b[" 6 = "ab\x1b[  " := by decide +kernel

end WalletScreens.Text

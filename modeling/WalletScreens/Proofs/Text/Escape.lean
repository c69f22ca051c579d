import Mathlib.Data.List.Forall2
import WalletScreens.Text.Column

/-!
Texts with codes put in.

A code is an escape sequence that nothing can go on with, so it comes out again whole, whatever is
written after it.  Texts with codes can therefore be put together piece by piece: the codes come
out of the whole as they come out of the pieces.
-/

namespace WalletScreens.Text

namespace Escape

/-- The state after all of the characters; none when a sequence does not go on with them. -/
def Progress.after : Progress → List Char → Option Progress
  | progress, [] => some progress
  | progress, c :: rest => (progress.step c).bind (·.after rest)

theorem Progress.after_append (progress : Progress) (first second : List Char) :
    progress.after (first ++ second) = (progress.after first).bind (·.after second) := by
  induction first generalizing progress with
  | nil => rfl
  | cons c rest ih =>
      rw [List.cons_append, after, after]
      cases progress.step c with
      | none => rfl
      | some next => exact ih next

theorem Progress.step_finished (c : Char) : Progress.finished.step c = none := by
  simp [step, digit]

theorem mem_digits_of_isDigit {c : Char} (digit : c.isDigit = true) :
    c ∈ ['0', '1', '2', '3', '4', '5', '6', '7', '8', '9'] := by
  obtain ⟨low, high⟩ := Char.isDigit_iff_toNat.mp digit
  change 48 ≤ c.toNat at low
  change c.toNat ≤ 57 at high
  have all : ∀ value < 10,
      Char.ofNat (48 + value) ∈ ['0', '1', '2', '3', '4', '5', '6', '7', '8', '9'] := by decide
  have written := all (c.toNat - 48) (by omega)
  rwa [Nat.add_sub_cancel' low, Char.ofNat_toNat] at written

theorem Progress.step_of_isDigit {c : Char} (digit : c.isDigit = true) (progress : Progress) :
    ∃ low, progress.step c = progress.digit low := by
  have one := mem_digits_of_isDigit digit
  simp only [List.mem_cons, List.not_mem_nil, or_false] at one
  rcases one with rfl | rfl | rfl | rfl | rfl | rfl | rfl | rfl | rfl | rfl
  all_goals first | exact ⟨true, rfl⟩ | exact ⟨false, rfl⟩

theorem Progress.after_digits {digits : List Char} (all : ∀ c ∈ digits, c.isDigit = true)
    {count : Nat} (few : count + digits.length ≤ 5) :
    (Progress.digits count).after digits = some (.digits (count + digits.length)) := by
  induction digits generalizing count with
  | nil => rfl
  | cons c rest ih =>
      rw [List.length_cons] at few ⊢
      obtain ⟨digit, others⟩ := List.forall_mem_cons.mp all
      obtain ⟨low, step⟩ := step_of_isDigit digit (.digits count)
      have more : (Progress.digits count).digit low = some (.digits (count + 1)) :=
        if_pos (by omega)
      rw [after, step, more, Option.bind_some, ih others (by omega)]
      congr 2
      omega

theorem Progress.after_number {digits : List Char} (written : digits ≠ [])
    (all : ∀ c ∈ digits, c.isDigit = true) (few : digits.length ≤ 5) :
    Progress.separated.after digits = some (.digits digits.length) := by
  cases digits with
  | nil => contradiction
  | cons c rest =>
      rw [List.length_cons] at few ⊢
      obtain ⟨digit, others⟩ := List.forall_mem_cons.mp all
      obtain ⟨low, step⟩ := step_of_isDigit digit .separated
      have first : Progress.separated.digit low = some (.digits 1) := rfl
      rw [after, step, first, Option.bind_some, after_digits others (by omega), Nat.add_comm]

theorem remaining_finished (rest : List Char) : remaining .finished rest = some 0 := by
  cases rest with
  | nil => rfl
  | cons c rest =>
      rw [remaining, Progress.step_finished]
      rfl

/-- A sequence that is finished ends where it is finished, whatever follows. -/
theorem remaining_append {progress : Progress} {body : List Char}
    (ends : progress.after body = some .finished) (rest : List Char) :
    remaining progress (body ++ rest) = some body.length := by
  induction body generalizing progress with
  | nil =>
      cases ends
      exact remaining_finished rest
  | cons c body ih =>
      obtain ⟨next, step, later⟩ := Option.bind_eq_some_iff.mp ends
      rw [List.cons_append, remaining, step, Option.bind_some, ih later]
      rfl

theorem stripAfter_append (body rest : List Char) :
    stripAfter body.length (body ++ rest) = strip rest := by
  induction body with
  | nil => rfl
  | cons c body ih => exact ih

theorem strip_code {body : List Char} (ends : Progress.started.after body = some .finished)
    (rest : List Char) : strip ('\x1b' :: (body ++ rest)) = strip rest := by
  rw [strip, stripAfter, if_pos (by decide), remaining_append ends]
  exact stripAfter_append body rest

/-- No character starts a sequence. -/
def Plain (chars : List Char) : Prop :=
  ∀ c ∈ chars, isStart c = false

instance (chars : List Char) : Decidable (Plain chars) :=
  List.decidableBAll (fun c => isStart c = false) chars

theorem Plain.append {first second : List Char} (before : Plain first) (after : Plain second) :
    Plain (first ++ second) :=
  List.forall_mem_append.mpr ⟨before, after⟩

theorem strip_append_of_plain {chars : List Char} (plain : Plain chars) (rest : List Char) :
    strip (chars ++ rest) = chars ++ strip rest := by
  induction chars with
  | nil => rfl
  | cons c chars ih =>
      obtain ⟨first, others⟩ := List.forall_mem_cons.mp plain
      rw [List.cons_append, strip, stripAfter, first, if_neg Bool.false_ne_true]
      exact congrArg (c :: ·) (ih others)

theorem plain_replicate {c : Char} (ordinary : isStart c = false) (count : Nat) :
    Plain (List.replicate count c) := by
  intro other member
  rw [List.eq_of_mem_replicate member]
  exact ordinary

end Escape

open Escape

theorem plain_spaces (count : Nat) : Plain (spaces count).toList := by
  rw [spaces, String.toList_ofList]
  exact plain_replicate (by decide) count

theorem isDigit_of_mem_number {c : Char} {value : Nat} (member : c ∈ (toString value).toList) :
    c.isDigit = true := by
  rw [Nat.toString_eq_repr, Nat.toList_repr] at member
  exact Nat.isDigit_of_mem_toDigits (by decide) (by decide) member

theorem plain_number (value : Nat) : Plain (toString value).toList := by
  intro c member
  have ordinary : Plain ['0', '1', '2', '3', '4', '5', '6', '7', '8', '9'] := by decide
  exact ordinary c (mem_digits_of_isDigit (isDigit_of_mem_number member))

theorem plain_padRight {text : String} (plain : Plain text.toList) (columns : Nat) :
    Plain (padRight text columns).toList := by
  rw [padRight, String.toList_append]
  exact plain.append (plain_spaces _)

theorem mem_of_mem_fitting {c : Char} {budget : Nat} {chars : List Char}
    (member : c ∈ fitting budget chars) : c ∈ chars := by
  induction chars generalizing budget with
  | nil => contradiction
  | cons first rest ih =>
      rw [fitting] at member
      split at member
      · rcases List.mem_cons.mp member with rfl | member
        · exact List.mem_cons_self
        · exact List.mem_cons_of_mem _ (ih member)
      · contradiction

theorem plain_truncate {text : String} (plain : Plain text.toList) (limit : Nat) :
    Plain (truncate text limit).toList := by
  unfold truncate
  split
  · exact plain
  · rw [String.toList_ofList]
    refine Plain.append (fun c member => plain c (mem_of_mem_fitting member)) ?_
    decide

/-- `shown` is `text` with codes put in, which come out again whatever follows. -/
structure Shows (shown text : String) : Prop where
  plain : Plain text.toList
  strip_append : ∀ rest, strip (shown.toList ++ rest) = text.toList ++ strip rest

namespace Shows

variable {shown text more moreText : String}

theorem of_plain (plain : Plain text.toList) : Shows text text :=
  ⟨plain, strip_append_of_plain plain⟩

theorem of_code (body : String) (ends : Progress.started.after body.toList = some .finished) :
    Shows ("\x1b" ++ body) "" where
  plain := nofun
  strip_append rest := by
    rw [String.toList_append]
    exact strip_code ends rest

theorem append (first : Shows shown text) (second : Shows more moreText) :
    Shows (shown ++ more) (text ++ moreText) where
  plain := by
    rw [String.toList_append]
    exact first.plain.append second.plain
  strip_append rest := by
    rw [String.toList_append, String.toList_append, List.append_assoc, first.strip_append,
      second.strip_append, List.append_assoc]

theorem joined (first : Shows shown text) (separator : String) (plain : Plain separator.toList)
    (second : Shows more moreText) :
    Shows (shown ++ separator ++ more) (text ++ separator ++ moreText) :=
  (first.append (of_plain plain)).append second

theorem strip_eq (said : Shows shown text) : strip shown.toList = text.toList := by
  have whole := said.strip_append []
  rwa [List.append_nil, show strip [] = [] from rfl, List.append_nil] at whole

theorem measure_eq (said : Shows shown text) : measure shown = measure text := by
  rw [measure, measure, said.strip_eq, (of_plain said.plain).strip_eq]

theorem padLeft (said : Shows shown text) (columns : Nat) :
    Shows (Text.padLeft shown columns) (Text.padLeft text columns) := by
  rw [Text.padLeft, Text.padLeft, said.measure_eq]
  exact (of_plain (plain_spaces _)).append said

theorem intercalate {separator : String} (plain : Plain separator.toList)
    {shown texts : List String} (each : List.Forall₂ Shows shown texts) :
    Shows (separator.intercalate shown) (separator.intercalate texts) := by
  induction each with
  | nil => exact of_plain nofun
  | cons first rest ih =>
      cases rest with
      | nil =>
          rw [String.intercalate_singleton, String.intercalate_singleton]
          exact first
      | cons second others =>
          rw [String.intercalate_cons_cons, String.intercalate_cons_cons]
          exact first.joined separator plain ih

theorem map {α : Type} {draw drawPlain : α → String} (parts : List α)
    (each : ∀ part ∈ parts, Shows (draw part) (drawPlain part)) :
    List.Forall₂ Shows (parts.map draw) (parts.map drawPlain) :=
  List.forall₂_map_left_iff.mpr (List.forall₂_map_right_iff.mpr (List.forall₂_same.mpr each))

/-- A text that is not empty is not shown as nothing. -/
theorem ne_empty (said : Shows shown text) (written : text ≠ "") : shown ≠ "" := by
  rintro rfl
  exact written (String.toList_inj.mp said.strip_eq.symm)

end Shows

end WalletScreens.Text

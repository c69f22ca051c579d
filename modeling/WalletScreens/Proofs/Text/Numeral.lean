import WalletScreens.Proofs.Text.Trimming
import WalletScreens.Text.Digits

/-!
Decimal numbers in text.

A number is written in ASCII digits, at least one, after a plus sign or none.  Zeros in front do
not count.
-/

namespace WalletScreens.Text

variable {chars digits : List Char} {number : Nat}

/-- One or more digits, and their value in base ten. -/
structure Digits (digits : List Char) (number : Nat) : Prop where
  ne_nil : digits ≠ []
  isDigit : ∀ c ∈ digits, c.isDigit = true
  value : Nat.ofDigitChars 10 digits 0 = number

def Numeral (chars : List Char) (number : Nat) : Prop :=
  ∃ sign digits, chars = sign ++ digits ∧ (sign = [] ∨ sign = ['+']) ∧ Digits digits number

theorem digits_repr (number : Nat) : Digits (Nat.repr number).toList number where
  ne_nil := by
    rw [Nat.toList_repr]
    exact Nat.toDigits_ne_nil
  isDigit c member := by
    rw [Nat.toList_repr] at member
    exact Nat.isDigit_of_mem_toDigits (by decide) (by decide) member
  value := by
    rw [Nat.toList_repr]
    exact Nat.ofDigitChars_ten_toDigits

theorem Digits.numeral (read : Digits digits number) : Numeral digits number :=
  ⟨[], digits, rfl, .inl rfl, read⟩

theorem Numeral.unbroken (numeral : Numeral chars number) : Unbroken chars := by
  obtain ⟨sign, digits, rfl, signed, read⟩ := numeral
  intro c member
  rcases List.mem_append.mp member with mark | digit
  · rcases signed with rfl | rfl
    · contradiction
    · rw [List.mem_singleton.mp mark]
      rfl
  · have range := Char.isDigit_iff_toNat.mp (read.isDigit c digit)
    simp only [Char.reduceToNat] at range
    exact isBlank_eq_false (by omega) (by omega)

theorem Numeral.ne_nil (numeral : Numeral chars number) : chars ≠ [] := by
  obtain ⟨sign, digits, rfl, -, read⟩ := numeral
  exact List.append_ne_nil_of_right_ne_nil sign read.ne_nil

/-- In base ten the letters, which are worth ten and more, are no digits. -/
theorem digitIn?_ten (c : Char) :
    digitIn? 10 c = if c.isDigit then some (c.toNat - '0'.toNat) else none := by
  simp only [digitIn?, Bool.and_eq_true, decide_eq_true_eq, ← Char.isDigit_iff_toNat]
  split
  · rename_i digit
    have most : c.toNat ≤ 57 := (Char.isDigit_iff_toNat.mp digit).2
    have small : c.toNat - '0'.toNat < 10 := by
      simp only [Char.reduceToNat]
      omega
    rw [Option.filter_some, if_pos (decide_eq_true small)]
  · grind

theorem digitsFrom_ten (read : Nat) (chars : List Char) :
    digitsFrom 10 read chars =
      if chars.all Char.isDigit then some (Nat.ofDigitChars 10 chars read) else none := by
  induction chars generalizing read with
  | nil => rfl
  | cons c rest ih =>
      rw [digitsFrom, digitIn?_ten, List.all_cons]
      cases digit : c.isDigit with
      | true => rw [if_pos rfl, Option.bind_some, ih, Nat.ofDigitChars_cons, Bool.true_and]
      | false => rfl

theorem digitsFrom_eq_some_iff (nonempty : digits ≠ []) (number : Nat) :
    digitsFrom 10 0 digits = some number ↔ Digits digits number := by
  rw [digitsFrom_ten, Option.ite_none_right_eq_some, Option.some.injEq, List.all_eq_true]
  exact ⟨fun read => ⟨nonempty, read.1, read.2⟩, fun read => ⟨read.isDigit, read.value⟩⟩

/-- A sign is no digit, so there is one way to tell it from the digits. -/
theorem numeral_cons_iff (c : Char) (rest : List Char) (number : Nat) :
    Numeral (c :: rest) number ↔
      Digits (if c = '+' then rest else c :: rest) number := by
  constructor
  · rintro ⟨sign, digits, split, rfl | rfl, read⟩
    · rw [List.nil_append] at split
      have digit := read.isDigit c (split ▸ List.mem_cons_self)
      have unsigned : c ≠ '+' := by
        rintro rfl
        contradiction
      rwa [if_neg unsigned, split]
    · cases split
      rwa [if_pos rfl]
  · intro read
    split at read
    · rename_i plus
      exact ⟨['+'], rest, by rw [plus]; rfl, .inr rfl, read⟩
    · exact read.numeral

theorem naturalIn?_cons (base limit : Nat) (c : Char) (rest : List Char) :
    naturalIn? base limit (c :: rest) =
      if (if c = '+' then rest else c :: rest) = [] then none
      else (digitsFrom base 0 (if c = '+' then rest else c :: rest)).filter (· ≤ limit) := by
  by_cases plus : c = '+'
  · subst plus
    cases rest <;> rfl
  · simp [naturalIn?, plus]

theorem natural?_eq_some_iff (limit : Nat) (chars : List Char) (number : Nat) :
    natural? limit chars = some number ↔ Numeral chars number ∧ number ≤ limit := by
  cases chars with
  | nil => exact iff_of_false (Option.some_ne_none number).symm fun read => read.1.ne_nil rfl
  | cons c rest =>
      rw [numeral_cons_iff, natural?, naturalIn?_cons, Option.ite_none_left_eq_some,
        Option.filter_eq_some_iff, decide_eq_true_eq]
      constructor
      · rintro ⟨nonempty, read, fits⟩
        exact ⟨(digitsFrom_eq_some_iff nonempty number).mp read, fits⟩
      · rintro ⟨read, fits⟩
        exact ⟨read.ne_nil, (digitsFrom_eq_some_iff read.ne_nil number).mpr read, fits⟩

end WalletScreens.Text

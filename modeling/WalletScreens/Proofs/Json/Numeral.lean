import WalletScreens.Proofs.Json.Skipping

/-!
Words that were asked for.

A word is read if the value is a number in plain digits that fits 64 bits, and it is read as that
number.  A sign, a point or a power of ten makes a number of another kind of it, also where it is
whole, and so does a number that is too great.
-/

namespace WalletScreens.Json

open Text

variable {chars digits rest after value : List Char} {c : Char} {number : Nat}

theorem le_ofDigitChars (digits : List Char) (read : Nat) :
    read ≤ Nat.ofDigitChars 10 digits read := by
  induction digits generalizing read with
  | nil => exact Nat.le_refl _
  | cons c rest ih =>
      rw [Nat.ofDigitChars_cons]
      exact Nat.le_trans (by omega) (ih _)

namespace Literal

theorem integerDigits_dropped (digits : List Char) (significand dropped : Nat) :
    (integerDigits significand (dropped + 1) digits).2 ≠ 0 := by
  induction digits generalizing dropped with
  | nil => exact Nat.succ_ne_zero dropped
  | cons c rest ih =>
      rw [integerDigits, if_neg (by omega)]
      exact ih _

/-- No digit is dropped if the number fits a word, and then the digits give the number. -/
theorem integerDigits_eq (digits : List Char) {significand : Nat} (fits : significand ≤ wordLimit) :
    integerDigits significand 0 digits = (Nat.ofDigitChars 10 digits significand, 0) ∧
        Nat.ofDigitChars 10 digits significand ≤ wordLimit ∨
      (integerDigits significand 0 digits).2 ≠ 0 ∧
        wordLimit < Nat.ofDigitChars 10 digits significand := by
  induction digits generalizing significand with
  | nil => exact .inl ⟨rfl, fits⟩
  | cons c rest ih =>
      rw [integerDigits, Nat.ofDigitChars_cons, Nat.mul_comm 10]
      by_cases within : significand * 10 + (c.toNat - '0'.toNat) ≤ wordLimit
      · rw [if_pos ⟨rfl, within⟩]
        exact ih within
      · rw [if_neg fun both => within both.2]
        exact .inr ⟨integerDigits_dropped rest significand 0,
          Nat.lt_of_lt_of_le (by omega) (le_ofDigitChars ..)⟩

/-- The digits of a whole number, as they are scanned. -/
def ofDigits (digits : List Char) : Literal :=
  let read := integerDigits 0 0 digits
  ⟨read.1, read.2, read.2 = 0⟩

theorem ofDigits_eq (whole : Natural digits number) (fits : number ≤ wordLimit) :
    ofDigits digits = ⟨number, 0, true⟩ := by
  rcases integerDigits_eq digits (Nat.zero_le wordLimit) with ⟨read, -⟩ | ⟨-, great⟩
  · rw [ofDigits, read, whole.value]
    rfl
  · rw [whole.value] at great
    omega

theorem le_of_whole_ofDigits (whole : Natural digits number)
    (kept : (ofDigits digits).whole = true) : number ≤ wordLimit := by
  rcases integerDigits_eq digits (Nat.zero_le wordLimit) with ⟨-, fits⟩ | ⟨dropped, -⟩
  · rwa [whole.value] at fits
  · exact absurd (of_decide_eq_true kept) dropped

theorem scan_append (whole : Natural digits number)
    (outside : ∀ c ∈ rest.head?, isDigit c = false) :
    scan (digits ++ rest) = withFraction (ofDigits digits) rest := by
  obtain ⟨taken, dropped⟩ := span_digits whole.toDigits outside
  obtain ⟨c, tail, rfl, digit⟩ := exists_digit_cons whole.toDigits
  by_cases zero : c = '0'
  · subst zero
    obtain ⟨⟩ := whole.unpadded rfl
    cases rest with
    | nil => rfl
    | cons next rest =>
        simp only [scan, List.cons_append, List.nil_append, outside next rfl]
        rfl
  · rw [List.cons_append] at taken dropped ⊢
    simp only [scan, if_neg zero, if_pos digit, taken, dropped]
    rfl

section

variable {literal read : Literal} {fraction power : List Char}

theorem withPower_ended (ended : Ended rest) : withPower literal rest = .ok (literal, rest) := by
  cases rest with
  | nil => rfl
  | cons c tail =>
      obtain ⟨-, -, small, capital⟩ := ended c rfl
      simp [withPower, small, capital]

theorem withFraction_ended (ended : Ended rest) :
    withFraction literal rest = .ok (literal, rest) := by
  rw [withFraction.eq_def]
  split
  · exact absurd rfl (ended '.' rfl).2.1
  · exact withPower_ended ended

/-- A power of ten leaves no number that is read as a whole one. -/
theorem withPower_whole (scale : Power power) (ended : Ended rest)
    (scanned : withPower literal (power ++ rest) = .ok (read, after)) (whole : read.whole = true) :
    power = [] ∧ read = literal ∧ after = rest := by
  cases scale with
  | none =>
      rw [List.nil_append, withPower_ended ended] at scanned
      cases scanned
      exact ⟨rfl, rfl, rfl⟩
  | @digits mark sign digits number marked signed _ =>
      have letter : mark = 'e' ∨ mark = 'E' := marked
      rw [List.cons_append, withPower, if_pos letter] at scanned
      cases scaled : Literal.power (sign ++ digits ++ rest) with
      | error => rw [scaled] at scanned; contradiction
      | ok result =>
          rw [scaled] at scanned
          cases scanned
          contradiction

/-- Neither does a point. -/
theorem withFraction_whole (part : Fraction fraction) (scale : Power power) (ended : Ended rest)
    (scanned : withFraction literal (fraction ++ (power ++ rest)) = .ok (read, after))
    (whole : read.whole = true) :
    fraction = [] ∧ power = [] ∧ read = literal ∧ after = rest := by
  cases part with
  | none =>
      rw [List.nil_append, withFraction.eq_def] at scanned
      split at scanned
      · rename_i tail first
        exact absurd rfl (scale.outside_append ended '.' (by rw [first]; rfl)).2
      · exact ⟨rfl, withPower_whole scale ended scanned whole⟩
  | @digits digits number found =>
      obtain ⟨taken, dropped⟩ := span_digits found fun c first =>
        (scale.outside_append ended c first).1
      obtain ⟨c, tail, rfl, digit⟩ := exists_digit_cons found
      rw [List.cons_append, withFraction.eq_def] at scanned
      simp only [taken, dropped] at scanned
      obtain ⟨-, rfl, -⟩ := withPower_whole scale ended scanned whole
      contradiction

end

end Literal

theorem ofLiteral_natural {literal : Literal}
    (read : Value.ofLiteral false literal = .ok (.natural number)) :
    literal.whole = true ∧ literal.significand = number := by
  unfold Value.ofLiteral at read
  cases whole : literal.whole with
  | true =>
      simp only [whole, if_true, Bool.not_false] at read
      cases read
      exact ⟨rfl, rfl⟩
  | false =>
      simp only [whole, Bool.false_eq_true, if_false] at read
      split at read <;> cases read

theorem readWord_eq (digit : isDigit c = true) (tail : List Char) :
    readWord (c :: tail) =
      match Literal.scan (c :: tail) with
      | .error fault => .error fault
      | .ok (literal, rest) =>
          match Value.ofLiteral false literal with
          | .error fault => .error fault
          | .ok (.natural value) => .ok (UInt64.ofNat value, rest)
          | .ok _ => .error .mismatch := by
  rw [readWord, skipBlanks_cons (isBlank_of_isDigit digit)]
  exact if_pos digit

theorem readWord_other (visible : isBlank c = false) (other : isDigit c = false)
    (tail : List Char) : readWord (c :: tail) = .error (unexpected (c :: tail)) := by
  rw [readWord, skipBlanks_cons visible]
  exact if_neg (ne_true_of_eq_false other)

theorem toNat_le_wordLimit (word : UInt64) : word.toNat ≤ wordLimit :=
  Nat.le_of_lt_succ word.toNat_lt

theorem readWord_natural {word : UInt64} (whole : Natural value word.toNat) (ended : Ended rest) :
    readWord (value ++ rest) = .ok (word, rest) := by
  have scanned := Literal.scan_append whole fun c first => (ended c first).1
  rw [Literal.withFraction_ended ended, Literal.ofDigits_eq whole (toNat_le_wordLimit word)]
    at scanned
  obtain ⟨c, tail, rfl, digit⟩ := exists_digit_cons whole.toDigits
  rw [List.cons_append] at scanned ⊢
  rw [readWord_eq digit, scanned]
  simp [Value.ofLiteral]

theorem natural_of_readWord {word : UInt64} (written : Written .value value) (ended : Ended rest)
    (read : readWord (value ++ rest) = .ok (word, after)) :
    Natural value word.toNat ∧ after = rest := by
  cases written with
  | number unsigned =>
      obtain ⟨whole, part, scale⟩ := unsigned
      rename_i digits number fraction power
      have scanned := Literal.scan_append whole (part.outside_append scale ended)
      obtain ⟨c, tail, rfl, digit⟩ := exists_digit_cons whole.toDigits
      simp only [List.cons_append, List.append_assoc] at read scanned
      rw [readWord_eq digit] at read
      split at read
      · contradiction
      · rename_i literal rest' found
        split at read
        · contradiction
        · rename_i natural
          cases read
          obtain ⟨kept, rfl⟩ := ofLiteral_natural natural
          obtain ⟨rfl, rfl, rfl, rfl⟩ := Literal.withFraction_whole part scale ended
            (scanned.symm.trans found) kept
          have fits := Literal.le_of_whole_ofDigits whole kept
          have word : (UInt64.ofNat number).toNat = number :=
            UInt64.toNat_ofNat_of_lt (Nat.lt_succ_of_le fits)
          rw [Literal.ofDigits_eq whole fits, List.append_nil, List.append_nil, word]
          exact ⟨whole, rfl⟩
        · contradiction
  | _ => exact absurd (read.symm.trans (readWord_other rfl rfl _)) nofun

/-- A value is read as a word if it is its number, up to its end. -/
theorem readWord_eq_ok_iff (written : Written .value value) (ended : Ended rest)
    (after : List Char) (word : UInt64) :
    readWord (value ++ rest) = .ok (word, after) ↔ Natural value word.toNat ∧ after = rest := by
  constructor
  · exact natural_of_readWord written ended
  · rintro ⟨whole, rfl⟩
    exact readWord_natural whole ended

/-- A number is printed with no zero in front. -/
theorem natural_repr (number : Nat) : Natural (Nat.repr number).toList number where
  toDigits := digits_repr number
  unpadded := by
    rw [Nat.toList_repr]
    induction number using Nat.strong_induction_on with
    | _ number ih =>
    by_cases small : number < 10
    · rw [Nat.toDigits_of_lt_base small, List.head?_cons, Option.some.injEq]
      exact fun zero => congrArg (fun c => [c]) zero
    · rw [Nat.toDigits_of_base_le (by decide) (Nat.le_of_not_lt small),
        List.head?_append_of_ne_nil _ Nat.toDigits_ne_nil]
      intro zero
      have value : Nat.ofDigitChars 10 (Nat.toDigits 10 (number / 10)) 0 = 0 := by
        rw [ih (number / 10) (by omega) zero]
        rfl
      rw [Nat.ofDigitChars_ten_toDigits] at value
      omega

end WalletScreens.Json

import WalletScreens.Proofs.Json.Grammar
import WalletScreens.Proofs.Json.Quoted

/-!
Values that nobody asked for.

Whatever value the grammar allows is skipped, up to its end and no further.  A number ends where it
cannot go on, so that holds in front of anything that does not go on with one.
-/

namespace WalletScreens.Json

open Text

variable {body digits passed quad rest : List Char} {c decoded : Char} {number unit : Nat}

section

variable {decode : List Char → Except Fault (Char × Nat)}

theorem stringAfter_append (decode : List Char → Except Fault (Char × Nat))
    (passed rest : List Char) :
    stringAfter decode passed.length (passed ++ rest) = stringAfter decode 0 rest := by
  induction passed with
  | nil => rfl
  | cons c passed ih => exact ih

/-- An escape gives one character, and is passed as a whole. -/
theorem stringAfter_escape (passed rest : List Char)
    (read : decode (passed ++ rest) = .ok (decoded, passed.length)) :
    stringAfter decode 0 ('\\' :: (passed ++ rest)) =
      (stringAfter decode 0 rest).map fun read => (decoded :: read.1, read.2) := by
  rw [stringAfter_backslash read, stringAfter_append]

end

/-- Four digits are read as they are, whatever comes after them. -/
theorem Quad.hexQuad_append (digits : Quad quad unit) (rest : List Char) :
    hexQuad (quad ++ rest) = .ok unit := by
  obtain ⟨length, value⟩ := digits
  match quad, length with
  | [_, _, _, _], _ => simp only [hexQuad, List.cons_append, List.nil_append, value]

theorem skippedEscape_short (simple : simpleEscape? c = some decoded) (rest : List Char) :
    skippedEscape (c :: rest) = .ok (decoded, 1) := by
  have unnumbered : c ≠ 'u' := by
    rintro rfl
    contradiction
  simp [skippedEscape, simple]

theorem skippedEscape_numbered (digits : Quad quad unit) (rest : List Char) :
    skippedEscape ('u' :: (quad ++ rest)) = .ok ('u', ('u' :: quad).length) := by
  rw [skippedEscape, digits.hexQuad_append, List.length_cons, digits.length]
  rfl

theorem skipString_body (known : Body body) (rest : List Char) :
    skipString (body ++ '"' :: rest) = .ok rest := by
  have read : ∃ chars, stringAfter skippedEscape 0 (body ++ '"' :: rest) = .ok (chars, rest) := by
    induction known with
    | nil => exact ⟨[], rfl⟩
    | ordinary itself _ ih =>
        obtain ⟨chars, read⟩ := ih
        rw [List.cons_append, stringAfter_ordinary itself.quote itself.backslash itself.control,
          read]
        exact ⟨_, rfl⟩
    | @short c _ more simple _ ih =>
        obtain ⟨chars, read⟩ := ih
        have escape := stringAfter_escape [c] (more ++ '"' :: rest) (skippedEscape_short simple _)
        rw [read] at escape
        exact ⟨_, escape⟩
    | @numbered quad _ more digits _ ih =>
        obtain ⟨chars, read⟩ := ih
        have escape := stringAfter_escape ('u' :: quad) _
          (skippedEscape_numbered digits (more ++ '"' :: rest))
        rw [read, List.cons_append, ← List.append_assoc] at escape
        exact ⟨_, escape⟩
  obtain ⟨chars, read⟩ := read
  rw [skipString, read]
  rfl

/-- Digits are taken up to the first character that is none. -/
theorem span_digits (read : Digits digits number) (ended : ∀ c ∈ rest.head?, isDigit c = false) :
    (digits ++ rest).takeWhile isDigit = digits ∧ (digits ++ rest).dropWhile isDigit = rest := by
  have inside : ∀ c ∈ digits, isDigit c = true := fun c member =>
    (isDigit_eq c).trans (read.isDigit c member)
  rw [List.takeWhile_append_of_pos inside, List.dropWhile_append_of_pos inside]
  cases rest with
  | nil => exact ⟨List.append_nil digits, rfl⟩
  | cons c tail =>
      have outside := ended c rfl
      simp [outside]

theorem skipExponent_digits {sign : List Char} (signed : sign = [] ∨ sign = ['+'] ∨ sign = ['-'])
    (read : Digits digits number) (outside : ∀ c ∈ rest.head?, isDigit c = false) :
    skipExponent (sign ++ (digits ++ rest)) = .ok rest := by
  obtain ⟨-, dropped⟩ := span_digits read outside
  obtain ⟨c, tail, rfl, digit⟩ := exists_digit_cons read
  have plus : c ≠ '+' := by
    rintro rfl
    contradiction
  have minus : c ≠ '-' := by
    rintro rfl
    contradiction
  rw [List.cons_append] at dropped ⊢
  rcases signed with rfl | rfl | rfl <;> simp [skipExponent, digit, dropped, plus, minus]

section

variable {fraction power : List Char}

theorem Power.outside_append (scale : Power power) (ended : Ended rest) :
    ∀ c ∈ (power ++ rest).head?, isDigit c = false ∧ c ≠ '.' := by
  cases scale with
  | none => exact fun c first => ⟨(ended c first).1, (ended c first).2.1⟩
  | digits marked _ _ =>
      rintro _ ⟨⟩
      rcases marked with rfl | rfl <;> decide

theorem Fraction.outside_append (part : Fraction fraction) (scale : Power power)
    (ended : Ended rest) : ∀ c ∈ (fraction ++ (power ++ rest)).head?, isDigit c = false := by
  cases part with
  | none => exact fun c first => (scale.outside_append ended c first).1
  | digits =>
      rintro _ ⟨⟩
      rfl

theorem skipPower_append (scale : Power power) (ended : Ended rest) :
    skipPower (power ++ rest) = .ok rest := by
  cases scale with
  | none =>
      rw [List.nil_append, skipPower.eq_def]
      cases rest with
      | nil => rfl
      | cons c tail =>
          obtain ⟨-, -, small, capital⟩ := ended c rfl
          simp [small, capital]
  | digits marked signed read =>
      have skipped := skipExponent_digits signed read fun c first => (ended c first).1
      rw [List.cons_append, List.append_assoc]
      rcases marked with rfl | rfl <;> exact skipped

theorem skipFraction_append (part : Fraction fraction) (scale : Power power)
    (ended : Ended rest) : skipFraction (fraction ++ (power ++ rest)) = .ok rest := by
  have skipped := skipPower_append scale ended
  cases part with
  | none =>
      rw [List.nil_append, skipFraction.eq_def]
      split
      · rename_i tail first
        exact absurd rfl (scale.outside_append ended '.' (by rw [first]; rfl)).2
      · exact skipped
  | digits read =>
      obtain ⟨-, dropped⟩ := span_digits read fun c first =>
        (scale.outside_append ended c first).1
      obtain ⟨c, tail, rfl, digit⟩ := exists_digit_cons read
      rw [List.cons_append] at dropped
      rw [List.cons_append, List.cons_append, skipFraction, if_pos digit, dropped, skipped]

theorem skipNumber_zero (outside : ∀ c ∈ rest.head?, isDigit c = false) :
    skipNumber ('0' :: rest) = skipFraction rest := by
  cases rest with
  | nil => rfl
  | cons c tail => simp [skipNumber, outside c rfl]

theorem skipNumber_unsigned {chars : List Char} (unsigned : Unsigned chars) (ended : Ended rest) :
    skipNumber (chars ++ rest) = .ok rest := by
  obtain ⟨whole, part, scale⟩ := unsigned
  have skipped := skipFraction_append part scale ended
  have outside := part.outside_append scale ended
  obtain ⟨-, dropped⟩ := span_digits whole.toDigits outside
  obtain ⟨c, tail, rfl, digit⟩ := exists_digit_cons whole.toDigits
  rw [List.append_assoc, List.append_assoc]
  by_cases zero : c = '0'
  · subst zero
    obtain ⟨⟩ := whole.unpadded rfl
    rw [List.cons_append, List.nil_append, skipNumber_zero outside, skipped]
  · rw [List.cons_append] at dropped ⊢
    simp only [skipNumber, if_neg zero, if_pos digit, dropped, skipped]

end

section

variable {blanks inside input tail : List Char} {fuel : Nat}

attribute [local simp] skipValue skipItems skipFields

theorem skipValue_blanks (blank : Blanks blanks) (input : List Char) :
    skipValue fuel (blanks ++ input) = skipValue fuel input := by
  cases fuel with
  | zero => rfl
  | succ fuel => simp [skipBlanks_append blank]

@[simp] theorem skipValue_skipBlanks (input : List Char) :
    skipValue fuel (skipBlanks input) = skipValue fuel input := by
  cases fuel with
  | zero => rfl
  | succ fuel => simp

theorem skipItems_skipBlanks (input : List Char) :
    skipItems fuel (skipBlanks input) = skipItems fuel input := by
  cases fuel with
  | zero => rfl
  | succ fuel => simp

theorem skipFields_skipBlanks (input : List Char) :
    skipFields fuel (skipBlanks input) = skipFields fuel input := by
  cases fuel with
  | zero => rfl
  | succ fuel => simp

theorem skipValue_digit (digit : isDigit c = true) (tail : List Char) :
    skipValue (fuel + 1) (c :: tail) = skipNumber (c :: tail) := by
  rw [skipValue, skipBlanks_cons (isBlank_of_isDigit digit)]
  split <;> rename_i first <;> cases first <;> first | contradiction | exact if_pos digit

theorem skipValue_list (first : skipBlanks input = c :: tail) (other : c ≠ ']') :
    skipValue (fuel + 1) ('[' :: input) = skipItems fuel input := by
  have start : skipBlanks ('[' :: input) = '[' :: input := rfl
  rw [skipValue, start, ← skipItems_skipBlanks input]
  simp [first, other]

theorem skipValue_noItem (blank : Blanks blanks) (rest : List Char) :
    skipValue (fuel + 1) ('[' :: (blanks ++ ']' :: rest)) = .ok rest := by
  have start (input : List Char) : skipBlanks ('[' :: input) = '[' :: input := rfl
  have done : skipBlanks (blanks ++ ']' :: rest) = ']' :: rest := skipBlanks_append blank _
  rw [skipValue, start]
  simp only [done]

theorem skipValue_record (first : skipBlanks input = '"' :: tail) :
    skipValue (fuel + 1) ('{' :: input) = skipFields fuel input := by
  have start : skipBlanks ('{' :: input) = '{' :: input := rfl
  rw [skipValue, start, ← skipFields_skipBlanks input]
  simp [first]

theorem skipValue_noField (blank : Blanks blanks) (rest : List Char) :
    skipValue (fuel + 1) ('{' :: (blanks ++ '}' :: rest)) = .ok rest := by
  have start (input : List Char) : skipBlanks ('{' :: input) = '{' :: input := rfl
  have done : skipBlanks (blanks ++ '}' :: rest) = '}' :: rest := skipBlanks_append blank _
  rw [skipValue, start]
  simp only [done]

/-- An item is skipped if its value is, and what comes next tells whether there are more. -/
theorem skipItems_padded {core padded : List Char} (padding : Padded core padded)
    (ended : Ended rest)
    (skipped : ∀ rest, Ended rest → skipValue fuel (core ++ rest) = .ok rest) :
    skipItems (fuel + 1) (padded ++ rest) =
      match skipBlanks rest with
      | ',' :: rest => skipItems fuel rest
      | ']' :: rest => .ok rest
      | [] => .error .truncated
      | _ => .error .malformed := by
  obtain ⟨leading, trailing⟩ := padding
  rw [skipItems, List.append_assoc, List.append_assoc, skipValue_blanks leading,
    skipped _ (ended.blanks_append trailing)]
  simp only [bind, Except.bind, skipBlanks_append trailing]
  rfl

theorem skipFields_labelled {member : Member} {labelled : List Char}
    (label : Labelled member labelled) (ended : Ended rest)
    (skipped : ∀ rest, Ended rest → skipValue fuel (member.value ++ rest) = .ok rest) :
    skipFields (fuel + 1) (labelled ++ rest) =
      match skipBlanks rest with
      | ',' :: rest => skipFields fuel rest
      | '}' :: rest => .ok rest
      | [] => .error .truncated
      | _ => .error .malformed := by
  obtain ⟨leading, key, gap, padding⟩ := label
  obtain ⟨before, after⟩ := padding
  have colon (input : List Char) : skipBlanks (':' :: input) = ':' :: input := rfl
  have quote (input : List Char) : skipBlanks ('"' :: input) = '"' :: input := rfl
  simp only [skipFields, List.append_assoc, List.cons_append, skipBlanks_append leading, quote,
    skipString_body key, bind, Except.bind, skipBlanks_append gap, colon, skipValue_blanks before,
    skipped _ (ended.blanks_append after), skipBlanks_append after]
  rfl

/-- What it means to skip a phrase, with the bracket after it if it stands between brackets.  A
value takes no more steps than it has characters, and what stands between brackets one more. -/
def Phrase.Skips : Phrase → List Char → Prop
  | .value, chars =>
      ∀ fuel rest, chars.length ≤ fuel → Ended rest → skipValue fuel (chars ++ rest) = .ok rest
  | .items [], _ | .fields [], _ => True
  | .items (_ :: _), chars =>
      ∀ fuel rest, chars.length < fuel → skipItems fuel (chars ++ ']' :: rest) = .ok rest
  | .fields (_ :: _), chars =>
      ∀ fuel rest, chars.length < fuel → skipFields fuel (chars ++ '}' :: rest) = .ok rest

end

/-- The cases are those of the grammar.  A list and a record spend one step on their brackets, and
each item and each field one on itself, which its comma or the bracket makes up for. -/
theorem Written.skips {phrase : Phrase} {chars : List Char} (written : Written phrase chars) :
    phrase.Skips chars := by
  induction written with
  | nullWord | trueWord | falseWord =>
      rintro (_ | fuel) rest enough _
      · contradiction
      · rfl
  | text known =>
      rintro (_ | fuel) rest enough _
      · contradiction
      · rw [skipValue, List.cons_append, List.append_assoc]
        exact skipString_body known rest
  | number unsigned =>
      intro fuel rest enough ended
      have skipped := skipNumber_unsigned unsigned ended
      obtain ⟨c, tail, rfl, digit⟩ := unsigned.exists_cons
      cases fuel with
      | zero => contradiction
      | succ fuel => exact (skipValue_digit digit _).trans skipped
  | negated unsigned =>
      rintro (_ | fuel) rest enough ended
      · contradiction
      · rw [skipValue]
        exact skipNumber_unsigned unsigned ended
  | @list values inside items ih =>
      rintro (_ | fuel) rest enough _
      · contradiction
      rw [List.cons_append, List.append_assoc]
      cases values with
      | nil =>
          cases items with
          | noItem blank => exact skipValue_noItem blank rest
      | cons value values =>
          obtain ⟨c, tail, first, other⟩ := items.exists_skipBlanks_items (']' :: rest)
          refine (skipValue_list first other).trans (ih fuel rest ?_)
          simp only [List.length_cons, List.length_append] at enough
          omega
  | @record members inside fields ih =>
      rintro (_ | fuel) rest enough _
      · contradiction
      rw [List.cons_append, List.append_assoc]
      cases members with
      | nil =>
          cases fields with
          | noField blank => exact skipValue_noField blank rest
      | cons member members =>
          obtain ⟨tail, first⟩ := fields.exists_skipBlanks_fields ('}' :: rest)
          refine (skipValue_record first).trans (ih fuel rest ?_)
          simp only [List.length_cons, List.length_append] at enough
          omega
  | noItem | noField => trivial
  | lastItem padding _ ih =>
      rintro (_ | fuel) rest enough
      · contradiction
      have bounded := padding.length_le
      exact skipItems_padded padding (ended_cons (by decide) rest)
        fun rest => ih fuel rest (by omega)
  | @item _ _ _ _ others padding _ _ ih more =>
      rintro (_ | fuel) rest enough
      · contradiction
      have bounded := padding.length_le
      simp only [List.length_append, List.length_cons] at enough
      have skipped := skipItems_padded padding
        (ended_cons (c := ',') (by decide) (others ++ ']' :: rest))
        fun rest => ih fuel rest (by omega)
      rw [List.append_assoc]
      exact skipped.trans (more fuel rest (by omega))
  | lastField label _ ih =>
      rintro (_ | fuel) rest enough
      · contradiction
      have bounded := label.length_lt
      exact skipFields_labelled label (ended_cons (by decide) rest)
        fun rest => ih fuel rest (by omega)
  | @field _ _ _ _ others label _ _ ih more =>
      rintro (_ | fuel) rest enough
      · contradiction
      have bounded := label.length_lt
      simp only [List.length_append, List.length_cons] at enough
      have skipped := skipFields_labelled label
        (ended_cons (c := ',') (by decide) (others ++ '}' :: rest))
        fun rest => ih fuel rest (by omega)
      rw [List.append_assoc]
      exact skipped.trans (more fuel rest (by omega))

end WalletScreens.Json

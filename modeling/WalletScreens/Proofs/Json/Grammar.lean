import Mathlib.Data.List.DropRight
import WalletScreens.Json.Record
import WalletScreens.Proofs.Text.Numeral

/-!
The texts of values.

The grammar tells a text apart with no regard to how it is read.  Blanks may stand around every
value and every mark, a list keeps the texts of its items, and a record those of its fields, with
names as they are written between their quotes.  Names may come again, and numbered escapes need not
stand for a character.
-/

namespace WalletScreens.Json

open Text

/-- Four digits of base sixteen, and their value. -/
structure Quad (chars : List Char) (unit : Nat) : Prop where
  length : chars.length = 4
  value : digitsFrom 16 0 chars = some unit

/-- A character that stands for itself between quotes. -/
structure Ordinary (c : Char) : Prop where
  quote : c ≠ '"'
  backslash : c ≠ '\\'
  control : ¬ c.toNat < 0x20

/-- What may stand between quotes. -/
inductive Body : List Char → Prop
  | nil : Body []
  | ordinary {c rest} (itself : Ordinary c) (more : Body rest) : Body (c :: rest)
  | short {c decoded rest} (known : simpleEscape? c = some decoded) (more : Body rest) :
      Body ('\\' :: c :: rest)
  | numbered {quad unit rest} (digits : Quad quad unit) (more : Body rest) :
      Body ('\\' :: 'u' :: (quad ++ rest))

/-- Decimal digits of a number, with no zero in front of others. -/
structure Natural (digits : List Char) (number : Nat) : Prop extends Digits digits number where
  unpadded : digits.head? = some '0' → digits = ['0']

inductive Fraction : List Char → Prop
  | none : Fraction []
  | digits {digits number} (read : Digits digits number) : Fraction ('.' :: digits)

inductive Power : List Char → Prop
  | none : Power []
  | digits {mark sign digits number} (marked : mark = 'e' ∨ mark = 'E')
      (signed : sign = [] ∨ sign = ['+'] ∨ sign = ['-']) (read : Digits digits number) :
      Power (mark :: (sign ++ digits))

inductive Unsigned : List Char → Prop
  | mk {digits number fraction power} (whole : Natural digits number) (part : Fraction fraction)
      (scale : Power power) : Unsigned (digits ++ (fraction ++ power))

def Blanks (chars : List Char) : Prop :=
  ∀ c ∈ chars, isBlank c = true

instance (chars : List Char) : Decidable (Blanks chars) :=
  decidable_of_iff (chars.all isBlank = true) List.all_eq_true

/-- A text between blanks. -/
inductive Padded (core : List Char) : List Char → Prop
  | mk {before after} (leading : Blanks before) (trailing : Blanks after) :
      Padded core (before ++ (core ++ after))

/-- A field as it is written: its name between the quotes, and its value. -/
structure Member where
  key : List Char
  value : List Char

/-- A member with its quotes, its colon and the blanks around them. -/
inductive Labelled (member : Member) : List Char → Prop
  | mk {before between padded} (leading : Blanks before) (key : Body member.key)
      (gap : Blanks between) (value : Padded member.value padded) :
      Labelled member (before ++ '"' :: (member.key ++ '"' :: (between ++ ':' :: padded)))

/-- A value, or what stands between the brackets of a list or a record. -/
inductive Phrase where
  | value
  | items (values : List (List Char))
  | fields (members : List Member)

inductive Written : Phrase → List Char → Prop
  | nullWord : Written .value ['n', 'u', 'l', 'l']
  | trueWord : Written .value ['t', 'r', 'u', 'e']
  | falseWord : Written .value ['f', 'a', 'l', 's', 'e']
  | text {body} (inside : Body body) : Written .value ('"' :: (body ++ ['"']))
  | number {chars} (unsigned : Unsigned chars) : Written .value chars
  | negated {chars} (unsigned : Unsigned chars) : Written .value ('-' :: chars)
  | list {values inside} (items : Written (.items values) inside) :
      Written .value ('[' :: (inside ++ [']']))
  | record {members inside} (fields : Written (.fields members) inside) :
      Written .value ('{' :: (inside ++ ['}']))
  | noItem {blanks} (blank : Blanks blanks) : Written (.items []) blanks
  | lastItem {value padded} (padding : Padded value padded) (written : Written .value value) :
      Written (.items [value]) padded
  | item {value padded next values others} (padding : Padded value padded)
      (written : Written .value value) (more : Written (.items (next :: values)) others) :
      Written (.items (value :: next :: values)) (padded ++ ',' :: others)
  | noField {blanks} (blank : Blanks blanks) : Written (.fields []) blanks
  | lastField {member labelled} (label : Labelled member labelled)
      (written : Written .value member.value) : Written (.fields [member]) labelled
  | field {member labelled next members others} (label : Labelled member labelled)
      (written : Written .value member.value) (more : Written (.fields (next :: members)) others) :
      Written (.fields (member :: next :: members)) (labelled ++ ',' :: others)

/-- A record with its brackets. -/
inductive Recorded (members : List Member) : List Char → Prop
  | mk {inside} (fields : Written (.fields members) inside) :
      Recorded members ('{' :: (inside ++ ['}']))

/-- A list with its brackets. -/
inductive Listed (values : List (List Char)) : List Char → Prop
  | mk {inside} (items : Written (.items values) inside) : Listed values ('[' :: (inside ++ [']']))

/-- What comes after a value does not go on with a number. -/
def Ended (rest : List Char) : Prop :=
  ∀ c ∈ rest.head?, isDigit c = false ∧ c ≠ '.' ∧ c ≠ 'e' ∧ c ≠ 'E'

variable {blanks chars rest value : List Char} {c : Char} {number : Nat}

theorem isDigit_eq (c : Char) : isDigit c = c.isDigit := by
  rw [Bool.eq_iff_iff, Char.isDigit_iff_toNat]
  simp [isDigit]

theorem isBlank_of_isDigit (digit : isDigit c = true) : isBlank c = false := by
  have first : 48 ≤ c.toNat := by
    simp only [isDigit, Bool.and_eq_true, decide_eq_true_eq, Char.reduceToNat] at digit
    exact digit.1
  simp only [isBlank, Bool.or_eq_false_iff, beq_eq_false_iff_ne]
  refine ⟨⟨⟨?_, ?_⟩, ?_⟩, ?_⟩ <;> rintro rfl <;> simp at first

theorem skipBlanks_append (blank : Blanks blanks) (rest : List Char) :
    skipBlanks (blanks ++ rest) = skipBlanks rest := by
  rw [skipBlanks, skipBlanks, List.dropWhile_append_of_pos blank]

@[simp] theorem skipBlanks_skipBlanks (input : List Char) :
    skipBlanks (skipBlanks input) = skipBlanks input :=
  List.dropWhile_idempotent ..

theorem skipBlanks_cons (visible : isBlank c = false) (rest : List Char) :
    skipBlanks (c :: rest) = c :: rest :=
  List.dropWhile_cons_of_neg (ne_true_of_eq_false visible)

theorem ended_cons (mark : isDigit c = false ∧ c ≠ '.' ∧ c ≠ 'e' ∧ c ≠ 'E') (rest : List Char) :
    Ended (c :: rest) := by
  rintro _ ⟨⟩
  exact mark

theorem Ended.blanks_append (blank : Blanks blanks) (ended : Ended rest) :
    Ended (blanks ++ rest) := by
  cases blanks with
  | nil => exact ended
  | cons c others =>
      have first : isBlank c = true := blank c List.mem_cons_self
      simp only [isBlank, Bool.or_eq_true, beq_iff_eq] at first
      rcases first with ((rfl | rfl) | rfl) | rfl <;> exact ended_cons (by decide) _

theorem exists_digit_cons (read : Digits chars number) :
    ∃ c tail, chars = c :: tail ∧ isDigit c = true := by
  obtain ⟨c, tail, rfl⟩ := List.exists_cons_of_ne_nil read.ne_nil
  exact ⟨c, tail, rfl, (isDigit_eq c).trans (read.isDigit c List.mem_cons_self)⟩

theorem Unsigned.exists_cons (unsigned : Unsigned chars) :
    ∃ c tail, chars = c :: tail ∧ isDigit c = true := by
  obtain ⟨whole, -, -⟩ := unsigned
  obtain ⟨c, tail, rfl, digit⟩ := exists_digit_cons whole.toDigits
  exact ⟨c, _, List.cons_append .., digit⟩

/-- A value begins with a character that is no blank and closes no bracket. -/
theorem Written.exists_cons (written : Written .value value) :
    ∃ c tail, value = c :: tail ∧ isBlank c = false ∧ c ≠ ']' := by
  cases written with
  | number unsigned =>
      obtain ⟨c, tail, rfl, digit⟩ := unsigned.exists_cons
      refine ⟨c, tail, rfl, isBlank_of_isDigit digit, ?_⟩
      rintro rfl
      contradiction
  | _ => exact ⟨_, _, rfl, by decide, by decide⟩

theorem blanks_nil : Blanks [] :=
  nofun

theorem padded_self (core : List Char) : Padded core core := by
  have padding : Padded core ([] ++ (core ++ [])) := .mk blanks_nil blanks_nil
  rwa [List.nil_append, List.append_nil] at padding

/-- A member with the value right in front of its end, and blanks where they may be. -/
theorem labelled_of_blanks {member : Member} (before between lead : List Char)
    (blank : Blanks (before ++ (between ++ lead))) (key : Body member.key) :
    Labelled member
      (before ++ '"' :: (member.key ++ '"' :: (between ++ ':' :: (lead ++ member.value)))) := by
  obtain ⟨leading, inner⟩ := List.forall_mem_append.mp blank
  obtain ⟨gap, inside⟩ := List.forall_mem_append.mp inner
  have value : Padded member.value (lead ++ (member.value ++ [])) := .mk inside blanks_nil
  rw [List.append_nil] at value
  exact .mk leading key gap value

theorem Padded.length_le {core padded : List Char} (padding : Padded core padded) :
    core.length ≤ padded.length := by
  obtain ⟨-, -⟩ := padding
  simp only [List.length_append]
  omega

theorem Labelled.length_lt {member : Member} {labelled : List Char}
    (label : Labelled member labelled) : member.value.length < labelled.length := by
  obtain ⟨-, -, -, padding⟩ := label
  have bounded := padding.length_le
  simp only [List.length_append, List.length_cons]
  omega

theorem Padded.exists_skipBlanks {padded : List Char} (padding : Padded value padded)
    (written : Written .value value) (rest : List Char) :
    ∃ c tail, skipBlanks (padded ++ rest) = c :: tail ∧ c ≠ ']' := by
  obtain ⟨c, tail, rfl, visible, other⟩ := written.exists_cons
  obtain ⟨leading, -⟩ := padding
  rw [List.append_assoc, skipBlanks_append leading]
  exact ⟨c, _, skipBlanks_cons visible _, other⟩

theorem Labelled.exists_skipBlanks {member : Member} {labelled : List Char}
    (label : Labelled member labelled) (rest : List Char) :
    ∃ tail, skipBlanks (labelled ++ rest) = '"' :: tail := by
  obtain ⟨leading, -, -, -⟩ := label
  rw [List.append_assoc, skipBlanks_append leading]
  exact ⟨_, skipBlanks_cons rfl _⟩

theorem Written.exists_skipBlanks_items {values : List (List Char)} {inside : List Char}
    (written : Written (.items (value :: values)) inside) (rest : List Char) :
    ∃ c tail, skipBlanks (inside ++ rest) = c :: tail ∧ c ≠ ']' := by
  cases written with
  | lastItem padding first => exact padding.exists_skipBlanks first rest
  | item padding first _ =>
      rw [List.append_assoc]
      exact padding.exists_skipBlanks first _

theorem Written.exists_skipBlanks_fields {member : Member} {members : List Member}
    {inside : List Char} (written : Written (.fields (member :: members)) inside)
    (rest : List Char) : ∃ tail, skipBlanks (inside ++ rest) = '"' :: tail := by
  cases written with
  | lastField label _ => exact label.exists_skipBlanks rest
  | field label _ _ =>
      rw [List.append_assoc]
      exact label.exists_skipBlanks _

theorem Written.length_le_items {values : List (List Char)} {inside : List Char}
    (written : Written (.items values) inside) : values.length ≤ inside.length := by
  induction values generalizing inside with
  | nil => exact Nat.zero_le _
  | cons value values ih =>
      cases written with
      | lastItem padding first =>
          obtain ⟨c, tail, rfl, -⟩ := first.exists_cons
          exact Nat.lt_of_lt_of_le (Nat.succ_pos _) padding.length_le
      | item _ _ more =>
          have bounded := ih more
          simp only [List.length_append, List.length_cons] at bounded ⊢
          omega

theorem Written.length_le_fields {members : List Member} {inside : List Char}
    (written : Written (.fields members) inside) : members.length ≤ inside.length := by
  induction members generalizing inside with
  | nil => exact Nat.zero_le _
  | cons member members ih =>
      cases written with
      | lastField label _ => exact Nat.lt_of_le_of_lt (Nat.zero_le _) label.length_lt
      | field label _ more =>
          have bounded := ih more
          simp only [List.length_append, List.length_cons] at bounded ⊢
          omega

end WalletScreens.Json

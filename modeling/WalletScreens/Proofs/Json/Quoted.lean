import WalletScreens.Json.Value

/-!
Texts in quotes.

Every character is written in such a way that it is read back as itself, whatever comes after it,
and that no quote, backslash or control is left to be taken for anything else.
-/

namespace WalletScreens.Json

open Text

variable {c : Char} {rest : List Char}

theorem digitIn?_hexDigit {value : Nat} (small : value < 16) :
    digitIn? 16 (hexDigit value) = some value := by
  have all : ∀ value < 16, digitIn? 16 (hexDigit value) = some value := by decide
  exact all value small

/-- Two zeros and the pair of a byte are the four digits of its value. -/
theorem hexQuad_hexPair (byte : UInt8) (rest : List Char) :
    hexQuad ('0' :: '0' :: hexPair byte ++ rest) = .ok byte.toNat := by
  have bounded := byte.toNat_lt
  have high : byte.toNat / 16 < 16 := by omega
  have low : byte.toNat % 16 < 16 := by omega
  have zero : digitIn? 16 '0' = some 0 := by decide
  have value : 16 * (byte.toNat / 16) + byte.toNat % 16 = byte.toNat := by omega
  simp [hexQuad, hexPair, digitsFrom, zero, digitIn?_hexDigit high, digitIn?_hexDigit low, value]

theorem unit_of_control (control : c.toNat < 0x20) :
    (UInt8.ofNat c.toNat).toNat = c.toNat ∧ isLeadSurrogate c.toNat = false ∧
      isTrailSurrogate c.toNat = false := by
  simp only [UInt8.toNat_ofNat', isLeadSurrogate, isTrailSurrogate, Bool.and_eq_false_iff,
    decide_eq_false_iff_not]
  omega

/-- The escape of a control is its number in four digits. -/
theorem escape_numbered (control : c.toNat < 0x20) (rest : List Char) :
    escape ('u' :: ('0' :: '0' :: hexPair (UInt8.ofNat c.toNat) ++ rest)) = .ok (c, 5) := by
  obtain ⟨value, lead, trail⟩ := unit_of_control control
  have quad := hexQuad_hexPair (UInt8.ofNat c.toNat) rest
  rw [value] at quad
  rw [escape, numberedEscape, quad]
  simp [bind, Except.bind, trail, lead, Except.map, Char.ofNat_toNat]

section

variable {decode : List Char → Except Fault (Char × Nat)}

theorem stringAfter_backslash {decoded : Char} {taken : Nat}
    (read : decode rest = .ok (decoded, taken)) :
    stringAfter decode 0 ('\\' :: rest) =
      (stringAfter decode taken rest).map fun read => (decoded :: read.1, read.2) := by
  rw [stringAfter, if_neg (by decide), if_pos rfl, read]

theorem stringAfter_ordinary (quote : c ≠ '"') (backslash : c ≠ '\\')
    (ordinary : ¬ c.toNat < 0x20) :
    stringAfter decode 0 (c :: rest) =
      (stringAfter decode 0 rest).map fun read => (c :: read.1, read.2) := by
  rw [stringAfter, if_neg quote, if_neg backslash, if_neg ordinary]

end

/-- Whatever comes after it, a written character is read as itself. -/
theorem stringAfter_escaped (c : Char) (rest : List Char) :
    stringAfter escape 0 (escaped c ++ rest) =
      (stringAfter escape 0 rest).map fun read => (c :: read.1, read.2) := by
  unfold escaped
  split
  case h_8 quote backslash _ _ _ _ _ =>
    split
    · rename_i control
      exact stringAfter_backslash (escape_numbered control rest)
    · rename_i ordinary
      exact stringAfter_ordinary quote backslash ordinary
  all_goals rfl

/-- A text is read up to the quote after it. -/
theorem string_flatMap_escaped (text : String) (rest : List Char) :
    string (text.toList.flatMap escaped ++ '"' :: rest) = .ok (text, rest) := by
  have read : ∀ chars : List Char,
      stringAfter escape 0 (chars.flatMap escaped ++ '"' :: rest) = .ok (chars, rest) := by
    intro chars
    induction chars with
    | nil => rfl
    | cons c chars ih =>
        rw [List.flatMap_cons, List.append_assoc, stringAfter_escaped, ih]
        rfl
  rw [string, read]
  simp [Except.map]

@[simp] theorem toList_quoted (text : String) :
    (quoted text).toList = '"' :: (text.toList.flatMap escaped ++ ['"']) := by
  simp [quoted]

theorem newline_notMem_hexPair (byte : UInt8) : '\n' ∉ hexPair byte := by
  have bounded := byte.toNat_lt
  have digit : ∀ value < 16, '\n' ≠ hexDigit value := by decide
  simp only [hexPair, List.mem_cons, List.not_mem_nil, or_false, not_or]
  exact ⟨digit _ (by omega), digit _ (by omega)⟩

theorem newline_notMem_escaped (c : Char) : '\n' ∉ escaped c := by
  unfold escaped
  split
  case h_8 =>
    split
    · simpa using newline_notMem_hexPair _
    · rename_i newline _ _ _
      simpa using Ne.symm newline
  all_goals decide

/-- However many lines a text has, in quotes it is on one. -/
theorem newline_notMem_quoted (text : String) : '\n' ∉ (quoted text).toList := by
  simp only [toList_quoted, List.mem_cons, List.mem_append, List.mem_flatMap, List.not_mem_nil,
    or_false, not_or, not_exists, not_and]
  exact ⟨by decide, fun c _ => newline_notMem_escaped c, by decide⟩

end WalletScreens.Json

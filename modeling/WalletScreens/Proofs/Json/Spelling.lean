import WalletScreens.Proofs.Json.Skipping

/-!
Texts that were asked for.

A text is read if what stands between its quotes spells characters, each numbered escape one of its
own or two of them a pair, and it is read as those, up to the quote.  No other value is read as one.
-/

namespace WalletScreens.Json

open Text

theorem map_eq_ok_iff {α β : Type} {result : Except Fault α} {f : α → β} {value : β} :
    result.map f = .ok value ↔ ∃ read, result = .ok read ∧ f read = value := by
  cases result <;> simp [Except.map]

theorem bind_eq_ok_iff {α β : Type} {result : Except Fault α} {next : α → Except Fault β}
    {value : β} :
    result >>= next = .ok value ↔ ∃ read, result = .ok read ∧ next read = .ok value := by
  cases result <;> simp [bind, Except.bind]

/-- The characters that a text between quotes stands for. -/
inductive Spells : List Char → List Char → Prop
  | nil : Spells [] []
  | ordinary {c body chars} (itself : Ordinary c) (more : Spells body chars) :
      Spells (c :: body) (c :: chars)
  | short {c decoded body chars} (known : simpleEscape? c = some decoded)
      (more : Spells body chars) : Spells ('\\' :: c :: body) (decoded :: chars)
  | numbered {quad unit body chars} (digits : Quad quad unit)
      (lead : isLeadSurrogate unit = false) (trail : isTrailSurrogate unit = false)
      (more : Spells body chars) :
      Spells ('\\' :: 'u' :: (quad ++ body)) (Char.ofNat unit :: chars)
  | paired {quad unit other next body chars} (digits : Quad quad unit)
      (lead : isLeadSurrogate unit = true) (digits' : Quad other next)
      (trail : isTrailSurrogate next = true) (more : Spells body chars) :
      Spells ('\\' :: 'u' :: (quad ++ '\\' :: 'u' :: (other ++ body)))
        (pairSurrogates unit next :: chars)

/-- A value is the text of some characters. -/
def Says (value : List Char) (text : String) : Prop :=
  ∃ body, value = '"' :: (body ++ ['"']) ∧ Spells body text.toList

variable {body chars quad rest after : List Char} {c decoded : Char} {unit : Nat}

section

variable (rest)

theorem escape_short (simple : simpleEscape? c = some decoded) :
    escape (c :: rest) = .ok (decoded, [c].length) := by
  have unnumbered : c ≠ 'u' := by
    rintro rfl
    contradiction
  simp [escape, simple]

theorem stringAfter_short (simple : simpleEscape? c = some decoded) :
    stringAfter escape 0 ('\\' :: c :: rest) =
      (stringAfter escape 0 rest).map fun read => (decoded :: read.1, read.2) :=
  stringAfter_escape [c] rest (escape_short rest simple)

theorem stringAfter_single (digits : Quad quad unit) (lead : isLeadSurrogate unit = false)
    (trail : isTrailSurrogate unit = false) :
    stringAfter escape 0 ('\\' :: 'u' :: (quad ++ rest)) =
      (stringAfter escape 0 rest).map fun read => (Char.ofNat unit :: read.1, read.2) := by
  refine stringAfter_escape ('u' :: quad) rest ?_
  rw [List.cons_append, escape, numberedEscape, digits.hexQuad_append, List.length_cons,
    digits.length]
  simp [bind, Except.bind, Except.map, lead, trail]

theorem stringAfter_trail (digits : Quad quad unit) (trail : isTrailSurrogate unit = true) :
    stringAfter escape 0 ('\\' :: 'u' :: (quad ++ rest)) = .error .malformed := by
  rw [stringAfter, if_neg (by decide), if_pos rfl, escape, numberedEscape, digits.hexQuad_append]
  simp [bind, Except.bind, Except.map, trail]

theorem numberedEscape_lead (digits : Quad quad unit) (lead : isLeadSurrogate unit = true) :
    numberedEscape (quad ++ rest) =
      match rest with
      | [] => .error .truncated
      | '\\' :: [] => .error .truncated
      | '\\' :: 'u' :: rest => do
          let trail ← hexQuad rest
          if isTrailSurrogate trail then .ok (pairSurrogates unit trail, 10)
          else .error .malformed
      | _ => .error .malformed := by
  have trail : isTrailSurrogate unit = false := by
    simp only [isLeadSurrogate, isTrailSurrogate, Bool.and_eq_true, Bool.and_eq_false_iff,
      decide_eq_true_eq, decide_eq_false_iff_not] at lead ⊢
    omega
  have dropped : (quad ++ rest).drop 4 = rest := by
    rw [← digits.length, List.drop_left]
  rw [numberedEscape, digits.hexQuad_append, dropped]
  simp only [bind, Except.bind, trail, lead]
  rfl

theorem stringAfter_paired {other : List Char} {next : Nat} (digits : Quad quad unit)
    (lead : isLeadSurrogate unit = true) (digits' : Quad other next)
    (trail : isTrailSurrogate next = true) :
    stringAfter escape 0 ('\\' :: 'u' :: (quad ++ '\\' :: 'u' :: (other ++ rest))) =
      (stringAfter escape 0 rest).map fun read =>
        (pairSurrogates unit next :: read.1, read.2) := by
  have read : escape ('u' :: (quad ++ '\\' :: 'u' :: other) ++ rest) =
      .ok (pairSurrogates unit next, ('u' :: (quad ++ '\\' :: 'u' :: other)).length) := by
    rw [List.cons_append, List.append_assoc, escape, numberedEscape_lead _ digits lead]
    simp [digits'.hexQuad_append, trail, digits.length, digits'.length, bind, Except.bind,
      Except.map]
  have step := stringAfter_escape _ rest read
  rwa [List.cons_append, List.append_assoc] at step

/-- A lead surrogate that is read has the escape of a trail surrogate after it. -/
theorem exists_trail {others : List Char} (digits : Quad quad unit)
    (lead : isLeadSurrogate unit = true) (more : Body others)
    (read : stringAfter escape 0 ('\\' :: 'u' :: (quad ++ (others ++ '"' :: rest))) =
      .ok (chars, after)) :
    ∃ other next body, others = '\\' :: 'u' :: (other ++ body) ∧ Quad other next ∧
      isTrailSurrogate next = true ∧ Body body := by
  rw [stringAfter, if_neg (by decide), if_pos rfl, escape, numberedEscape_lead _ digits lead]
    at read
  cases more with
  | nil => contradiction
  | @ordinary c body itself more =>
      have backslash := itself.backslash
      simp [Except.map, backslash] at read
  | @short c _ body simple more =>
      have unnumbered : c ≠ 'u' := by
        rintro rfl
        contradiction
      simp [Except.map, unnumbered] at read
  | @numbered other next body digits' more =>
      refine ⟨other, next, body, rfl, digits', ?_, more⟩
      cases trail : isTrailSurrogate next with
      | true => rfl
      | false =>
          simp [digits'.hexQuad_append, trail, bind, Except.bind, Except.map] at read

end

/-- What is spelled is read, up to the quote after it. -/
theorem Spells.stringAfter_eq (spells : Spells body chars) (rest : List Char) :
    stringAfter escape 0 (body ++ '"' :: rest) = .ok (chars, rest) := by
  induction spells with
  | nil => rfl
  | ordinary itself _ ih =>
      rw [List.cons_append, stringAfter_ordinary itself.quote itself.backslash itself.control, ih]
      rfl
  | short simple _ ih =>
      rw [List.cons_append, List.cons_append, stringAfter_short _ simple, ih]
      rfl
  | numbered digits lead trail _ ih =>
      rw [List.cons_append, List.cons_append, List.append_assoc,
        stringAfter_single _ digits lead trail, ih]
      rfl
  | paired digits lead digits' trail _ ih =>
      simp only [List.cons_append, List.append_assoc]
      rw [stringAfter_paired _ digits lead digits' trail, ih]
      rfl

theorem Spells.unique {other : List Char} (spells : Spells body chars)
    (again : Spells body other) : chars = other := by
  have read := (spells.stringAfter_eq []).symm.trans (again.stringAfter_eq [])
  cases read
  rfl

/-- What is read is spelled.  The induction is on the length, since a lead surrogate takes the
escape after it along. -/
theorem spells_of_stringAfter (known : Body body)
    (read : stringAfter escape 0 (body ++ '"' :: rest) = .ok (chars, after)) :
    Spells body chars ∧ after = rest := by
  induction size : body.length using Nat.strong_induction_on generalizing body chars with
  | _ size ih =>
  subst size
  cases known with
  | nil =>
      cases read
      exact ⟨.nil, rfl⟩
  | ordinary itself more =>
      rw [List.cons_append,
        stringAfter_ordinary itself.quote itself.backslash itself.control] at read
      obtain ⟨⟨others, _⟩, inner, ⟨⟩⟩ := map_eq_ok_iff.mp read
      obtain ⟨spells, rfl⟩ := ih _ (by simp only [List.length_cons]; omega) more inner rfl
      exact ⟨.ordinary itself spells, rfl⟩
  | short simple more =>
      rw [List.cons_append, List.cons_append, stringAfter_short _ simple] at read
      obtain ⟨⟨others, _⟩, inner, ⟨⟩⟩ := map_eq_ok_iff.mp read
      obtain ⟨spells, rfl⟩ := ih _ (by simp only [List.length_cons]; omega) more inner rfl
      exact ⟨.short simple spells, rfl⟩
  | @numbered quad unit others digits more =>
      rw [List.cons_append, List.cons_append, List.append_assoc] at read
      cases lead : isLeadSurrogate unit with
      | true =>
          obtain ⟨other, next, body, rfl, digits', trail, more⟩ :=
            exists_trail _ digits lead more read
          simp only [List.cons_append, List.append_assoc] at read
          rw [stringAfter_paired _ digits lead digits' trail] at read
          obtain ⟨⟨others, _⟩, inner, ⟨⟩⟩ := map_eq_ok_iff.mp read
          obtain ⟨spells, rfl⟩ :=
            ih _ (by simp only [List.length_cons, List.length_append]; omega) more inner rfl
          exact ⟨.paired digits lead digits' trail spells, rfl⟩
      | false =>
          cases trail : isTrailSurrogate unit with
          | true =>
              rw [stringAfter_trail _ digits trail] at read
              contradiction
          | false =>
              rw [stringAfter_single _ digits lead trail] at read
              obtain ⟨⟨others, _⟩, inner, ⟨⟩⟩ := map_eq_ok_iff.mp read
              obtain ⟨spells, rfl⟩ :=
                ih _ (by simp only [List.length_cons, List.length_append]; omega) more inner rfl
              exact ⟨.numbered digits lead trail spells, rfl⟩

theorem string_eq_ok_iff (known : Body body) (rest after : List Char) (text : String) :
    string (body ++ '"' :: rest) = .ok (text, after) ↔ Spells body text.toList ∧ after = rest := by
  constructor
  · intro read
    obtain ⟨⟨chars, _⟩, whole, ⟨⟩⟩ := map_eq_ok_iff.mp read
    rw [String.toList_ofList]
    exact spells_of_stringAfter known whole
  · rintro ⟨spells, rfl⟩
    rw [string, spells.stringAfter_eq]
    simp [Except.map]

theorem body_of_spells (spells : Spells body chars) : Body body := by
  induction spells with
  | nil => exact .nil
  | ordinary itself _ ih => exact .ordinary itself ih
  | short simple _ ih => exact .short simple ih
  | numbered digits _ _ _ ih => exact .numbered digits ih
  | paired digits _ digits' _ _ ih => exact .numbered digits (.numbered digits' ih)

theorem quad_hexPair (byte : UInt8) : Quad ('0' :: '0' :: hexPair byte) byte.toNat where
  length := rfl
  value := by
    have read := hexQuad_hexPair byte []
    simp only [hexQuad, hexPair, List.cons_append, List.nil_append] at read
    split at read
    · cases read
      assumption
    · contradiction

/-- A character as it is written spells itself. -/
theorem spells_escaped_append (c : Char) (spells : Spells body chars) :
    Spells (escaped c ++ body) (c :: chars) := by
  unfold escaped
  split
  case h_8 quote backslash _ _ _ _ _ =>
    split
    · rename_i control
      obtain ⟨value, lead, trail⟩ := unit_of_control control
      have quad := quad_hexPair (UInt8.ofNat c.toNat)
      rw [value] at quad
      have numbered := Spells.numbered quad lead trail spells
      rwa [Char.ofNat_toNat] at numbered
    · rename_i ordinary
      exact .ordinary ⟨quote, backslash, ordinary⟩ spells
  all_goals exact .short rfl spells

theorem spells_flatMap_escaped (chars : List Char) : Spells (chars.flatMap escaped) chars := by
  induction chars with
  | nil => exact .nil
  | cons c chars ih =>
      rw [List.flatMap_cons]
      exact spells_escaped_append c ih

variable {value : List Char}

theorem readText_eq (visible : isBlank c = false) (tail : List Char) :
    readText (c :: tail) = if c = '"' then string tail else .error (unexpected (c :: tail)) := by
  rw [readText, skipBlanks_cons visible]
  split
  · rename_i first
    cases first
    rw [if_pos rfl]
  · rename_i other
    rw [if_neg fun same => other tail (by rw [same])]

/-- A value is read as a text if it says one, up to its end. -/
theorem readText_eq_ok_iff (written : Written .value value) (rest after : List Char)
    (text : String) :
    readText (value ++ rest) = .ok (text, after) ↔ Says value text ∧ after = rest := by
  by_cases quoted : ∃ body, value = '"' :: (body ++ ['"']) ∧ Body body
  · obtain ⟨body, rfl, known⟩ := quoted
    have read : readText ('"' :: (body ++ ['"']) ++ rest) = string (body ++ '"' :: rest) := by
      rw [List.cons_append, readText_eq rfl, if_pos rfl, List.append_assoc]
      rfl
    rw [read, string_eq_ok_iff known, Says]
    refine and_congr_left fun _ => ⟨fun spells => ⟨body, rfl, spells⟩, ?_⟩
    rintro ⟨other, same, spells⟩
    obtain ⟨-, same⟩ := List.cons.inj same
    rwa [List.append_cancel_right same]
  · have other : ∀ tail, value ≠ '"' :: tail := by
      rintro tail rfl
      cases written with
      | text known => exact quoted ⟨_, rfl, known⟩
      | number unsigned =>
          obtain ⟨c, tail, same, digit⟩ := unsigned.exists_cons
          cases same
          contradiction
    obtain ⟨c, tail, rfl, visible, -⟩ := written.exists_cons
    have quote : c ≠ '"' := by
      rintro rfl
      exact other tail rfl
    rw [List.cons_append, readText_eq visible, if_neg quote]
    refine iff_of_false nofun ?_
    rintro ⟨⟨body, same, -⟩, -⟩
    exact other _ same

end WalletScreens.Json

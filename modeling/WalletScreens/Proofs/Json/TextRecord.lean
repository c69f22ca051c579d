import Mathlib.Data.List.TakeWhile
import WalletScreens.Json.Print
import WalletScreens.Proofs.Json.Quoted

/-!
Records of texts.

Such a record is printed on one line, whatever its texts are, and the line reads back as the record
if the names are in order, as they are in any record that was read or built.
-/

namespace WalletScreens.Json.Value

/-- Fields that are texts. -/
def ofTexts (fields : List (String × String)) : List (String × Value) :=
  fields.map fun field => (field.1, .text field.2)

theorem lookup_ofTexts (fields : List (String × String)) (name : String) :
    (ofTexts fields).lookup name = (fields.lookup name).map .text := by
  induction fields with
  | nil => rfl
  | cons field rest ih =>
      obtain ⟨other, text⟩ := field
      rw [ofTexts, List.map_cons, List.lookup_cons, List.lookup_cons]
      cases name == other with
      | false => exact ih
      | true => rfl

/-- A field as it is printed. -/
def fieldText (name text : String) : String :=
  quoted name ++ ":" ++ quoted text

theorem printFields_ofTexts (fields : List (String × String)) :
    printFields (ofTexts fields) = fields.map fun field => fieldText field.1 field.2 := by
  induction fields with
  | nil => rfl
  | cons field rest ih =>
      rw [ofTexts, List.map_cons, printFields, List.map_cons, print]
      exact congrArg (_ :: ·) ih

section

variable (name text : String) (rest : List Char) (fuel : Nat)

theorem scan_quoted :
    scan (fuel + 1) ((quoted text).toList ++ rest) = .ok (.text text, rest) := by
  have start : skipBlanks ((quoted text).toList ++ rest) =
      '"' :: (text.toList.flatMap escaped ++ '"' :: rest) := by
    rw [toList_quoted, List.cons_append, List.append_assoc]
    rfl
  rw [scan, start]
  simp only [string_flatMap_escaped, Except.map]

theorem skipBlanks_fieldText :
    skipBlanks ((fieldText name text).toList ++ rest) =
      '"' :: (name.toList.flatMap escaped ++ '"' :: (':' :: ((quoted text).toList ++ rest))) := by
  simp only [fieldText, String.toList_append, toList_quoted, List.append_assoc, List.cons_append,
    List.nil_append]
  rfl

theorem scanFields_last :
    scanFields (fuel + 2) ((fieldText name text).toList ++ '}' :: rest) =
      .ok ([(name, .text text)], rest) := by
  have colon (rest : List Char) : skipBlanks (':' :: rest) = ':' :: rest := rfl
  have brace : skipBlanks ('}' :: rest) = '}' :: rest := rfl
  rw [scanFields, skipBlanks_fieldText]
  simp only [string_flatMap_escaped, bind, Except.bind, colon, scan_quoted, brace]
  rfl

theorem scanFields_comma {fields : List (String × Value)} {after : List Char}
    (others : scanFields (fuel + 1) rest = .ok (fields, after)) :
    scanFields (fuel + 2) ((fieldText name text).toList ++ ',' :: rest) =
      .ok ((name, .text text) :: fields, after) := by
  have colon (rest : List Char) : skipBlanks (':' :: rest) = ':' :: rest := rfl
  have comma : skipBlanks (',' :: rest) = ',' :: rest := rfl
  rw [scanFields, skipBlanks_fieldText]
  simp only [string_flatMap_escaped, bind, Except.bind, colon, scan_quoted, comma, others]
  rfl

end

/-- All fields are read, up to the end of their record. -/
theorem scanFields_printFields {fields : List (String × String)} (some : fields ≠ [])
    {fuel : Nat} (enough : fields.length < fuel) (rest : List Char) :
    scanFields fuel ((",".intercalate (printFields (ofTexts fields))).toList ++ '}' :: rest) =
      .ok (ofTexts fields, rest) := by
  rw [printFields_ofTexts]
  induction fields generalizing fuel with
  | nil => contradiction
  | cons field others ih =>
      obtain ⟨more, rfl⟩ : ∃ more, fuel = more + 2 :=
        ⟨fuel - 2, by rw [List.length_cons] at enough; omega⟩
      cases others with
      | nil =>
          rw [List.map_singleton, String.intercalate_singleton]
          exact scanFields_last ..
      | cons next others =>
          have read := ih (List.cons_ne_nil _ _) (Nat.lt_of_succ_lt_succ enough)
          rw [List.map_cons, List.map_cons, String.intercalate_cons_cons, String.toList_append,
            String.toList_append, List.append_assoc, List.append_assoc]
          exact scanFields_comma _ _ _ _ read

/-- A name that comes after all others is put at the end. -/
theorem insert_of_last {name : String} (value : Value) {sorted : List (String × Value)}
    (last : ∀ field ∈ sorted, field.1 < name) :
    insert name value sorted = sorted ++ [(name, value)] := by
  induction sorted with
  | nil => rfl
  | cons field rest ih =>
      obtain ⟨before, others⟩ := List.forall_mem_cons.mp last
      have other : name ≠ field.1 := fun same => String.lt_irrefl _ (same ▸ before)
      rw [insert, if_neg other, if_neg (String.lt_asymm before), ih others]
      rfl

theorem ofFields_of_sorted {fields : List (String × Value)}
    (sorted : fields.Pairwise fun first second => first.1 < second.1) :
    ofFields fields = .record fields := by
  have fold : ∀ read : List (String × Value),
      (∀ field ∈ fields, ∀ earlier ∈ read, earlier.1 < field.1) →
        fields.foldl (fun sorted field => insert field.1 field.2 sorted) read =
          read ++ fields := by
    induction fields with
    | nil => exact fun read _ => (List.append_nil read).symm
    | cons field rest ih =>
        intro read ordered
        obtain ⟨first, others⟩ := List.pairwise_cons.mp sorted
        rw [List.foldl_cons, insert_of_last _ (ordered field List.mem_cons_self), ih others]
        · rw [List.append_assoc]
          rfl
        · intro later member earlier before
          rcases List.mem_append.mp before with old | new
          · exact ordered later (List.mem_cons_of_mem _ member) earlier old
          · rw [List.mem_singleton.mp new]
            exact first later member
  rw [ofFields, fold [] (by simp), List.nil_append]

theorem length_le_intercalate {separator : String} {parts : List String}
    (written : ∀ part ∈ parts, part ≠ "") :
    parts.length ≤ (separator.intercalate parts).toList.length := by
  induction parts with
  | nil => exact Nat.zero_le _
  | cons part rest ih =>
      obtain ⟨first, others⟩ := List.forall_mem_cons.mp written
      have one : 0 < part.toList.length :=
        List.length_pos_iff.mpr (mt String.toList_eq_nil_iff.mp first)
      have bounded := ih others
      cases rest with
      | nil =>
          rw [String.intercalate_singleton]
          exact one
      | cons next rest =>
          rw [String.intercalate_cons_cons, String.toList_append, String.toList_append,
            List.length_append, List.length_append, List.length_cons]
          omega

theorem length_le_printFields (fields : List (String × String)) :
    fields.length ≤ (",".intercalate (printFields (ofTexts fields))).toList.length := by
  rw [printFields_ofTexts]
  have written : ∀ part ∈ fields.map fun field => fieldText field.1 field.2, part ≠ "" := by
    intro part member
    obtain ⟨field, -, rfl⟩ := List.mem_map.mp member
    simp [fieldText, quoted]
  exact (List.length_map _).symm.trans_le (length_le_intercalate written)

theorem exists_printFields_eq (field : String × String) (others : List (String × String)) :
    ∃ chars, (",".intercalate (printFields (ofTexts (field :: others)))).toList = '"' :: chars := by
  rw [printFields_ofTexts]
  cases others with
  | nil => simp [fieldText]
  | cons next others => simp [fieldText, String.intercalate_cons_cons]

theorem scan_record {fields : List (String × String)}
    (sorted : fields.Pairwise fun first second => first.1 < second.1) {fuel : Nat}
    (enough : fields.length < fuel) (rest : List Char) :
    scan (fuel + 1)
        ('{' :: ((",".intercalate (printFields (ofTexts fields))).toList ++ '}' :: rest)) =
      .ok (.record (ofTexts fields), rest) := by
  cases fields with
  | nil =>
      rw [scan]
      rfl
  | cons field others =>
      obtain ⟨chars, quote⟩ := exists_printFields_eq field others
      have read := scanFields_printFields (List.cons_ne_nil field others) enough rest
      have opened : scan (fuel + 1) ('{' :: '"' :: (chars ++ '}' :: rest)) =
          (scanFields fuel ('"' :: (chars ++ '}' :: rest))).map
            fun read => (ofFields read.1, read.2) := by
        rw [scan]
        rfl
      rw [quote, List.cons_append] at read ⊢
      have ordered : (ofTexts (field :: others)).Pairwise fun first second =>
          first.1 < second.1 := List.pairwise_map.mpr sorted
      rw [opened, read, Except.map, ofFields_of_sorted ordered]

/-- The printed record reads back, also with blanks after it. -/
theorem parse_print_ofTexts {fields : List (String × String)}
    (sorted : fields.Pairwise fun first second => first.1 < second.1) (after : String)
    (blank : ∀ c ∈ after.toList, isBlank c = true) :
    parse ((Value.record (ofTexts fields)).print ++ after) = .ok (.record (ofTexts fields)) := by
  let inside := (",".intercalate (printFields (ofTexts fields))).toList
  have text : ((Value.record (ofTexts fields)).print ++ after).toList =
      '{' :: (inside ++ '}' :: after.toList) := by
    rw [print]
    simp only [String.toList_append, inside, List.append_assoc]
    rfl
  have rest : skipBlanks after.toList = [] := List.dropWhile_eq_nil_iff.mpr blank
  have enough : fields.length < ('{' :: (inside ++ '}' :: after.toList)).length := by
    have bounded : fields.length ≤ inside.length := length_le_printFields fields
    rw [List.length_cons, List.length_append]
    omega
  have read := scan_record sorted enough after.toList
  simp only [parse, text, inside] at read ⊢
  rw [read, finish, rest]

theorem notMem_intercalate {c : Char} {separator : String} {parts : List String}
    (between : c ∉ separator.toList) (outside : ∀ part ∈ parts, c ∉ part.toList) :
    c ∉ (separator.intercalate parts).toList := by
  induction parts with
  | nil => simp
  | cons part rest ih =>
      obtain ⟨first, others⟩ := List.forall_mem_cons.mp outside
      cases rest with
      | nil => rwa [String.intercalate_singleton]
      | cons next rest =>
          rw [String.intercalate_cons_cons, String.toList_append, String.toList_append]
          simp only [List.mem_append, not_or]
          exact ⟨⟨first, between⟩, ih others⟩

/-- Whatever the texts are, the record is printed on one line. -/
theorem newline_notMem_print_ofTexts (fields : List (String × String)) :
    '\n' ∉ (Value.record (ofTexts fields)).print.toList := by
  have inside : '\n' ∉ (",".intercalate (printFields (ofTexts fields))).toList := by
    rw [printFields_ofTexts]
    refine notMem_intercalate (by decide) fun part member => ?_
    obtain ⟨⟨name, text⟩, -, rfl⟩ := List.mem_map.mp member
    have colon : '\n' ∉ ":".toList := by decide
    simp only [fieldText, String.toList_append, List.mem_append, not_or]
    exact ⟨⟨newline_notMem_quoted name, colon⟩, newline_notMem_quoted text⟩
  rw [print]
  simp only [String.toList_append, List.mem_append, not_or]
  exact ⟨⟨by decide, inside⟩, by decide⟩

end WalletScreens.Json.Value

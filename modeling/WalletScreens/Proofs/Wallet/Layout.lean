import WalletScreens.Json.Print
import WalletScreens.Proofs.Wallet.Decoding

/-!
Account files in any layout.

What a file lists is told by the fields of its records, each of which may come in any place, be
written in any way that spells it, and have anything between it and the next.  One such layout is
the compact text of the fields in some order.
-/

namespace WalletScreens.Wallet.Account

open Json Text

/-- Something is missing that is no balance, or something is there twice. -/
def Broken (members : List Member) : Prop :=
  ∃ field : Field, field.isBalance = false ∧ field.Missing members ∨ field.Repeated members

section

variable {account : Account} {field other : Field} {members : List Member}

theorem Field.Repeated.not_shown (repeated : field.Repeated members) (found : Option Content) :
    ¬ field.Shown members found := by
  obtain ⟨before, first, between, second, after, rfl, label, again⟩ := repeated
  induction before with
  | nil =>
      intro shown
      obtain ⟨missing, -⟩ := (Field.shown_cons_of_labels label).mp shown
      exact missing second (by simp) again
  | cons member before ih =>
      intro shown
      by_cases own : field.Labels member
      · obtain ⟨missing, -⟩ := (Field.shown_cons_of_labels own).mp shown
        exact missing first (by simp) label
      · exact ih ((Field.shown_cons_of_not own).mp shown)

theorem DescribedBy.not_broken (described : account.DescribedBy members) : ¬ Broken members := by
  rintro ⟨field, ⟨required, missing⟩ | repeated⟩
  · cases described.required required with
    | once _ label => exact missing _ (by simp) label
  · rcases described.shown field with shown | ⟨-, -, missing⟩
    · exact repeated.not_shown _ shown
    · exact repeated.not_shown _ (.missing missing)

/-- A field of an account as a serializer writes it. -/
def Content.print : Content → String
  | .word number => Nat.repr number.toNat
  | .text chars => quoted chars

def memberText (account : Account) (field : Field) : String :=
  quoted field.key ++ ":" ++ (account.content field).print

def member (account : Account) (field : Field) : Member where
  key := field.key.toList.flatMap escaped
  value := (account.content field).print.toList

/-- The compact text of some fields, in the order in which they are listed. -/
def compact (account : Account) (order : List Field) : String :=
  "\x7b" ++ ",".intercalate (order.map account.memberText) ++ "\x7d"

theorem written_print (content : Content) : Written .value content.print.toList := by
  cases content with
  | word word =>
      have digits := Unsigned.mk (natural_repr word.toNat) .none .none
      rw [List.append_nil, List.append_nil] at digits
      exact .number digits
  | text text =>
      rw [Content.print, toList_quoted]
      exact .text (body_of_spells (spells_flatMap_escaped _))

theorem shows_print (account : Account) (field : Field) :
    field.Shows (account.content field) (account.content field).print.toList := by
  have word (word : UInt64) : Natural (Content.word word).print.toList word.toNat :=
    natural_repr _
  have text (text : String) : Says (Content.text text).print.toList text := by
    rw [Content.print, toList_quoted]
    exact ⟨_, rfl, spells_flatMap_escaped _⟩
  cases field with
  | id | coins | votes => exact ⟨rfl, word _⟩
  | name | spendKey | scanKey => exact ⟨rfl, text _⟩

theorem labelled_memberText (account : Account) (field : Field) :
    Labelled (account.member field) (account.memberText field).toList := by
  have key : Body (account.member field).key := body_of_spells (spells_flatMap_escaped _)
  have label := labelled_of_blanks [] [] [] blanks_nil key
  simpa [memberText, member] using label

theorem written_members (account : Account) (order : List Field) :
    Written (.fields (order.map account.member))
      (",".intercalate (order.map account.memberText)).toList := by
  induction order with
  | nil => exact .noField nofun
  | cons field order ih =>
      have value : Written .value (account.member field).value := written_print _
      have label := account.labelled_memberText field
      cases order with
      | nil =>
          rw [List.map_singleton, List.map_singleton, String.intercalate_singleton]
          exact .lastField label value
      | cons next order =>
          simp only [List.map_cons] at ih ⊢
          rw [String.intercalate_cons_cons, String.toList_append, String.toList_append,
            List.append_assoc]
          exact .field label value ih

theorem labels_member (account : Account) :
    field.Labels (account.member other) ↔ field = other := by
  have named : Spells (account.member other).key other.key.toList := spells_flatMap_escaped _
  rw [Field.labels_iff named, Field.key_injective.eq_iff]

theorem missing_member {order : List Field} (absent : field ∉ order) :
    field.Missing (order.map account.member) := by
  intro member listed label
  obtain ⟨other, present, rfl⟩ := List.mem_map.mp listed
  obtain rfl := account.labels_member.mp label
  exact absent present

/-- Every field is there once, or is a balance of zero. -/
def Complete (account : Account) (order : List Field) : Prop :=
  order.Nodup ∧ ∀ field : Field,
    field ∈ order ∨ field.isBalance = true ∧ account.content field = .word 0

theorem describedBy_members {order : List Field} (complete : account.Complete order) :
    account.DescribedBy (order.map account.member) := by
  obtain ⟨distinct, present⟩ := complete
  constructor
  · intro member listed
    obtain ⟨field, -, rfl⟩ := List.mem_map.mp listed
    exact ⟨field.key, spells_flatMap_escaped _⟩
  · intro field
    by_cases listed : field ∈ order
    · obtain ⟨before, after, rfl⟩ := List.append_of_mem listed
      obtain ⟨-, rest, apart⟩ := List.nodup_append.mp distinct
      have earlier : field ∉ before := fun member =>
        apart field member field List.mem_cons_self rfl
      have later : field ∉ after := (List.nodup_cons.mp rest).1
      rw [List.map_append, List.map_cons]
      exact .inl (.once (account.missing_member earlier) (account.labels_member.mpr rfl)
        (account.missing_member later) (account.shows_print field))
    · obtain ⟨balance, zero⟩ := (present field).resolve_left listed
      exact .inr ⟨balance, zero, account.missing_member listed⟩

/-- The compact text reads back in whatever order the fields are. -/
theorem parse_compact {order : List Field} (complete : account.Complete order) :
    parse (account.compact order) = .ok account := by
  have recorded := Recorded.mk (account.written_members order)
  have text : (account.compact order).toList = '{' ::
      ((",".intercalate (order.map account.memberText)).toList ++ ['}']) := by
    rw [compact]
    simp
  rw [← text] at recorded
  exact (parse_eq_ok_iff recorded (padded_self _) account).mpr (describedBy_members complete)

theorem print_toJson (account : Account) :
    account.toJson.print = account.compact [.coins, .id, .name, .scanKey, .spendKey, .votes] := by
  have sorted : account.toJson = .record
      [("coins", .natural account.coins.toNat), ("id", .natural account.id.toNat),
        ("name", .text account.name), ("scan_pkey", .text account.scanKey),
        ("spend_pkey", .text account.spendKey), ("votes", .natural account.votes.toNat)] := by
    simp only [toJson, Value.ofFields, List.foldl_cons, List.foldl_nil, Value.insert,
      String.reduceEq, String.reduceLT, if_false, if_true]
  rw [sorted]
  rfl

theorem forall_not_broken {accounts : List Account} {layouts : List (List Member)}
    (described : List.Forall₂ DescribedBy accounts layouts) :
    ∀ members ∈ layouts, ¬ Broken members := by
  induction described with
  | nil => nofun
  | cons first _ ih => exact List.forall_mem_cons.mpr ⟨first.not_broken, ih⟩

theorem exists_error {α : Type} {result : Except Fault α} (none : ∀ value, result ≠ .ok value) :
    ∃ fault, result = .error fault := by
  cases result with
  | error fault => exact ⟨fault, rfl⟩
  | ok value => exact absurd rfl (none value)

end

/-- The fields of a record decide which account it is read as, and neither their order nor their
spelling, the blanks or the members between them make a difference.  A record that lacks a field
other than a balance, or that has one twice, is no account, and no list that it is in is read.
What is printed of an account, in one order or another, is read as that account. -/
theorem fields_decide_account :
    (∀ (members : List Member) (record : List Char) (text : String),
      Recorded members record → Padded record text.toList →
        (∀ account, parse text = .ok account ↔ account.DescribedBy members) ∧
          (Broken members → ∃ fault, parse text = .error fault)) ∧
    (∀ (layouts : List (List Member)) (records : List (List Char)) (list : List Char)
      (text : String), List.Forall₂ Recorded layouts records → Listed records list →
        Padded list text.toList →
        (∀ accounts, parseList text = .ok accounts ↔ List.Forall₂ DescribedBy accounts layouts) ∧
          ((∃ members ∈ layouts, Broken members) → ∃ fault, parseList text = .error fault)) ∧
    ∀ account : Account,
      (∀ order, account.Complete order → parse (account.compact order) = .ok account) ∧
        parse (account.compact Field.all) = .ok account ∧
        parse account.toJson.print = .ok account := by
  refine ⟨fun members record text recorded padding => ?_,
    fun layouts records list text recorded listed padding => ?_, fun account => ?_⟩
  · have read := parse_eq_ok_iff recorded padding
    refine ⟨read, fun broken => exists_error fun account parsed => ?_⟩
    exact ((read account).mp parsed).not_broken broken
  · have read := parseList_eq_ok_iff recorded listed padding
    refine ⟨read, fun ⟨members, member, broken⟩ => exists_error fun accounts parsed => ?_⟩
    exact forall_not_broken ((read accounts).mp parsed) members member broken
  · have complete : account.Complete Field.all :=
      ⟨by decide, fun field => .inl (by cases field <;> decide)⟩
    have sorted : account.Complete [.coins, .id, .name, .scanKey, .spendKey, .votes] :=
      ⟨by decide, fun field => .inl (by cases field <;> decide)⟩
    refine ⟨fun order => parse_compact, parse_compact complete, ?_⟩
    rw [print_toJson]
    exact parse_compact sorted

namespace Shuffled

/-- An account without coins. -/
def account : Account :=
  { id := 7, name := "Á😀\n", spendKey := "k", scanKey := "", votes := 18446744073709551615 }

/-- A member that no account asks for. -/
def memo : Member :=
  ⟨"memo".toList, "[1e400, \x7b\"id\":\"\\ud800\"\x7d]".toList⟩

/-- The name, half of it in escapes. -/
def name : Member :=
  ⟨"n\\u0061me".toList, "\"Á\\ud83d\\uDE00\\n\"".toList⟩

def members : List Member :=
  [account.member .votes, memo, name, account.member .scanKey, account.member .id,
    account.member .spendKey]

def text : String :=
  "[ \x7b\"votes\" : 18446744073709551615,\n\"memo\":[1e400, \x7b\"id\":\"\\ud800\"\x7d]," ++
    "\"n\\u0061me\":\"Á\\ud83d\\uDE00\\n\",\"scan_pkey\":\"\",\t\"id\":7," ++
    "\"spend_pkey\":\"k\"\x7d]\n"

theorem key_body (field : Field) : Body (account.member field).key :=
  body_of_spells (spells_flatMap_escaped _)

theorem ordinary_of_lt {c : Char} (code : 0x5c < c.toNat) : Ordinary c :=
  ⟨by rintro rfl; contradiction, by rintro rfl; contradiction, by omega⟩

theorem memo_value : Written .value memo.value := by
  let lone : Member := ⟨(account.member .id).key, "\"\\ud800\"".toList⟩
  have surrogate : Quad "d800".toList 0xd800 := ⟨rfl, by decide⟩
  have id : Body lone.key := key_body .id
  have record := Written.record (.lastField (labelled_of_blanks [] [] [] blanks_nil id)
    (.text (.numbered surrogate .nil)))
  have number : Written .value "1e400".toList :=
    .number (.mk (natural_repr 1) .none (.digits (.inl rfl) (.inl rfl) (digits_repr 400)))
  have space : Blanks [' '] := by decide
  exact .list (.item (padded_self _) number (.lastItem (.mk space blanks_nil) record))

theorem name_body : Body name.key :=
  .ordinary (ordinary_of_lt (by decide)) (.numbered (⟨rfl, by decide⟩ : Quad "0061".toList 0x61)
    (.ordinary (ordinary_of_lt (by decide)) (.ordinary (ordinary_of_lt (by decide)) .nil)))

theorem name_value : Written .value name.value := by
  have lead : Quad "d83d".toList 0xd83d := ⟨rfl, by decide⟩
  have trail : Quad "DE00".toList 0xde00 := ⟨rfl, by decide⟩
  exact .text (.ordinary (ordinary_of_lt (by decide))
    (.numbered lead (.numbered trail (.short rfl .nil))))

/-- The text is a list of one record with the members. -/
theorem listed : ∃ record list, Recorded members record ∧ Listed [record] list ∧
    Padded list text.toList := by
  have memo_body : Body memo.key := body_of_spells (spells_flatMap_escaped "memo".toList)
  have value (field : Field) : Written .value (account.member field).value := written_print _
  obtain ⟨inside, fields, whole⟩ : ∃ inside, Written (.fields members) inside ∧
      '[' :: ' ' :: '{' :: (inside ++ ['}', ']', '\n']) = text.toList :=
    ⟨_, .field (labelled_of_blanks [] [' '] [' '] (by decide) (key_body .votes)) (value .votes)
      (.field (labelled_of_blanks ['\n'] [] [] (by decide) memo_body) memo_value
      (.field (labelled_of_blanks [] [] [] (by decide) name_body) name_value
      (.field (labelled_of_blanks [] [] [] (by decide) (key_body .scanKey)) (value .scanKey)
      (.field (labelled_of_blanks ['\t'] [] [] (by decide) (key_body .id)) (value .id)
      (.lastField (labelled_of_blanks [] [] [] (by decide) (key_body .spendKey))
        (value .spendKey)))))), by decide +kernel⟩
  have space : Blanks [' '] := by decide
  have newline : Blanks ['\n'] := by decide
  refine ⟨'{' :: (inside ++ ['}']), '[' :: ' ' :: '{' :: (inside ++ ['}', ']']), .mk fields, ?_, ?_⟩
  · have item : Padded ('{' :: (inside ++ ['}'])) _ := .mk space blanks_nil
    simpa using Listed.mk (.lastItem item (.record fields))
  · have padding : Padded ('[' :: ' ' :: '{' :: (inside ++ ['}', ']'])) _ := .mk blanks_nil newline
    rw [← whole]
    simpa using padding

end Shuffled

/-- Votes come first and coins not at all, blanks and escapes are where they may be, and a list that
no account asks for is skipped.  Without any members there is no account. -/
theorem account_of_shuffled_record :
    parseList Shuffled.text = .ok [Shuffled.account] ∧
      Shuffled.account.DescribedBy Shuffled.members ∧
      parse (Shuffled.account.compact [.votes, .id, .scanKey, .name, .spendKey]) =
        .ok Shuffled.account ∧
      ∃ fault, parse "\x7b \x7d" = .error fault := by
  obtain ⟨one, lists, printed⟩ := fields_decide_account
  have parsed : parseList Shuffled.text = .ok [Shuffled.account] := by decide +kernel
  obtain ⟨record, list, recorded, listed, padding⟩ := Shuffled.listed
  obtain ⟨read, -⟩ := lists [Shuffled.members] _ _ _ (.cons recorded .nil) listed padding
  obtain ⟨⟩ | ⟨described, -⟩ := (read [Shuffled.account]).mp parsed
  have space : Blanks [' '] := by decide
  have lacking : Broken [] := ⟨.id, .inl ⟨rfl, nofun⟩⟩
  obtain ⟨-, rejected⟩ := one [] _ "\x7b \x7d" (.mk (.noField space)) (padded_self _)
  have complete : Shuffled.account.Complete [.votes, .id, .scanKey, .name, .spendKey] :=
    ⟨by decide, fun field => by cases field <;> decide⟩
  exact ⟨parsed, described, (printed Shuffled.account).1 _ complete, rejected lacking⟩

end WalletScreens.Wallet.Account

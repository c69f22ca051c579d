import WalletScreens.Proofs.Json.Numeral
import WalletScreens.Proofs.Json.Spelling
import WalletScreens.Wallet.Account

/-!
Accounts read from records.

A record is read field by field into a draft.  Which account that makes is told by the fields that
the record has and by what their values show, whatever the order is and whatever else stands
between them.
-/

namespace WalletScreens.Wallet.Account

open Json

inductive Field where
  | id
  | name
  | spendKey
  | scanKey
  | coins
  | votes
deriving DecidableEq, Repr

/-- What a field holds. -/
inductive Content where
  | word (value : UInt64)
  | text (value : String)
deriving DecidableEq, Repr

namespace Field

def all : List Field :=
  [.id, .name, .spendKey, .scanKey, .coins, .votes]

def key : Field → String
  | .id => "id"
  | .name => "name"
  | .spendKey => "spend_pkey"
  | .scanKey => "scan_pkey"
  | .coins => "coins"
  | .votes => "votes"

/-- Balances may be left out if they are zero. -/
def isBalance : Field → Bool
  | .coins | .votes => true
  | _ => false

def isWord : Field → Bool
  | .id | .coins | .votes => true
  | _ => false

/-- A value is how a field may be written with its content. -/
def Shows (field : Field) (content : Content) (value : List Char) : Prop :=
  match content with
  | .word word => field.isWord = true ∧ Natural value word.toNat
  | .text text => field.isWord = false ∧ Says value text

def read (field : Field) (input : List Char) : Except Fault (Content × List Char) :=
  if field.isWord then (readWord input).map fun read => (.word read.1, read.2)
  else (readText input).map fun read => (.text read.1, read.2)

theorem key_injective : Function.Injective key := by
  intro field other same
  cases field <;> cases other <;> first | rfl | simp [key] at same

theorem read_blanks {blanks : List Char} (field : Field) (blank : Blanks blanks)
    (input : List Char) : field.read (blanks ++ input) = field.read input := by
  simp only [read, readWord, readText, skipBlanks_append blank]

theorem read_eq_ok_iff (field : Field) {value rest : List Char} (written : Written .value value)
    (ended : Ended rest) (after : List Char) (content : Content) :
    field.read (value ++ rest) = .ok (content, after) ↔
      field.Shows content value ∧ after = rest := by
  rw [read]
  cases kind : field.isWord with
  | true =>
      rw [if_pos rfl, map_eq_ok_iff]
      cases content with
      | word word => simp [Shows, kind, readWord_eq_ok_iff written ended]
      | text text => simp [Shows, kind]
  | false =>
      rw [if_neg Bool.false_ne_true, map_eq_ok_iff]
      cases content with
      | word word => simp [Shows, kind]
      | text text => simp [Shows, kind, readText_eq_ok_iff written]

end Field

def content (account : Account) : Field → Content
  | .id => .word account.id
  | .name => .text account.name
  | .spendKey => .text account.spendKey
  | .scanKey => .text account.scanKey
  | .coins => .word account.coins
  | .votes => .word account.votes

namespace Draft

def content (draft : Draft) : Field → Option Content
  | .id => draft.id.map .word
  | .name => draft.name.map .text
  | .spendKey => draft.spendKey.map .text
  | .scanKey => draft.scanKey.map .text
  | .coins => draft.coins.map .word
  | .votes => draft.votes.map .word

/-- The draft with the content of one field, of the kind that the field holds. -/
def put (draft : Draft) : Field → Content → Draft
  | .id, .word id => { draft with id := some id }
  | .name, .text name => { draft with name := some name }
  | .spendKey, .text spendKey => { draft with spendKey := some spendKey }
  | .scanKey, .text scanKey => { draft with scanKey := some scanKey }
  | .coins, .word coins => { draft with coins := some coins }
  | .votes, .word votes => { draft with votes := some votes }
  | _, _ => draft

theorem ext_content {draft other : Draft}
    (same : ∀ field, draft.content field = other.content field) : draft = other := by
  have word : Function.Injective Content.word := fun _ _ => Content.word.inj
  have text : Function.Injective Content.text := fun _ _ => Content.text.inj
  cases draft
  cases other
  rw [mk.injEq]
  exact ⟨Option.map_injective word (same .id), Option.map_injective text (same .name),
    Option.map_injective text (same .spendKey), Option.map_injective text (same .scanKey),
    Option.map_injective word (same .coins), Option.map_injective word (same .votes)⟩

theorem content_put {field : Field} {content : Content} {value : List Char}
    (shown : field.Shows content value) (draft : Draft) (other : Field) :
    (draft.put field content).content other =
      if other = field then some content else draft.content other := by
  cases content with
  | word =>
      cases field with
      | id | coins | votes => cases other <;> rfl
      | name | spendKey | scanKey => exact absurd shown.1 (by decide)
  | text =>
      cases field with
      | name | spendKey | scanKey => cases other <;> rfl
      | id | coins | votes => exact absurd shown.1 (by decide)

/-- A field that is read once, with its content and with the value that this stands for. -/
theorem once_bind {α : Type} (old : Option α) (read : Reader α) (wrap : α → Content)
    (next : Option α → Draft) (put : Content → Draft)
    (agree : ∀ value, put (wrap value) = next value) (input : List Char) :
    (do
      let (value, rest) ← once old read input
      return (next value, rest) : Except Fault (Draft × List Char)) =
      if (old.map wrap).isSome then .error .mismatch
      else do
        let rest ← readColon input
        let (content, rest) ← (read rest).map fun read => (wrap read.1, read.2)
        return (put content, rest) := by
  cases old with
  | some => rfl
  | none =>
      cases colon : readColon input with
      | error => simp [once, colon, bind, Except.bind]
      | ok rest =>
          cases found : read rest <;>
            simp [once, colon, found, bind, Except.bind, Except.map, pure, Except.pure, agree]

theorem withField_key (draft : Draft) (field : Field) (input : List Char) :
    draft.withField field.key input =
      if (draft.content field).isSome then .error .mismatch
      else do
        let rest ← readColon input
        let (content, rest) ← field.read rest
        return (draft.put field content, rest) := by
  cases field with
  | id =>
      exact once_bind draft.id readWord .word (fun id => { draft with id }) _ (fun _ => rfl) input
  | name =>
      exact once_bind draft.name readText .text (fun name => { draft with name }) _
        (fun _ => rfl) input
  | spendKey =>
      exact once_bind draft.spendKey readText .text (fun spendKey => { draft with spendKey }) _
        (fun _ => rfl) input
  | scanKey =>
      exact once_bind draft.scanKey readText .text (fun scanKey => { draft with scanKey }) _
        (fun _ => rfl) input
  | coins =>
      exact once_bind draft.coins readWord .word (fun coins => { draft with coins }) _
        (fun _ => rfl) input
  | votes =>
      exact once_bind draft.votes readWord .word (fun votes => { draft with votes }) _
        (fun _ => rfl) input

theorem withField_other (draft : Draft) {name : String} (other : ∀ field : Field, field.key ≠ name)
    (input : List Char) :
    draft.withField name input = do
      let rest ← readColon input
      let rest ← skipValue (rest.length + 1) rest
      return (draft, rest) := by
  have id : name ≠ "id" := (other .id).symm
  have label : name ≠ "name" := (other .name).symm
  have spendKey : name ≠ "spend_pkey" := (other .spendKey).symm
  have scanKey : name ≠ "scan_pkey" := (other .scanKey).symm
  have coins : name ≠ "coins" := (other .coins).symm
  have votes : name ≠ "votes" := (other .votes).symm
  rw [withField, if_neg id, if_neg label, if_neg spendKey, if_neg scanKey, if_neg coins,
    if_neg votes]

/-- What a member makes of a draft, by its name.  A field is filled if nothing was read for it
before, and a name of no field changes nothing. -/
inductive Takes (draft : Draft) (value : List Char) : String → Draft → Prop
  | field {field : Field} {content : Content} (fresh : draft.content field = none)
      (shown : field.Shows content value) : Takes draft value field.key (draft.put field content)
  | other {name : String} (unknown : ∀ field : Field, field.key ≠ name) :
      Takes draft value name draft

/-- What the members of a record make of a draft, one after the other. -/
inductive Reads : Draft → List Member → Draft → Prop
  | nil {draft} : Reads draft [] draft
  | cons {draft next final : Draft} {member : Member} {name : String} {members : List Member}
      (named : Spells member.key name.toList) (takes : draft.Takes member.value name next)
      (more : Reads next members final) : Reads draft (member :: members) final

section

variable {draft next final : Draft} {name : String} {blanks between input rest value : List Char}

theorem readColon_append (gap : Blanks between) (input : List Char) :
    readColon (between ++ ':' :: input) = .ok input := by
  rw [readColon, skipBlanks_append gap]
  rfl

theorem takes_key_iff {field : Field} :
    draft.Takes value field.key next ↔
      draft.content field = none ∧
        ∃ content, field.Shows content value ∧ next = draft.put field content := by
  constructor
  · intro takes
    generalize same : field.key = name at takes
    cases takes with
    | field fresh shown =>
        cases Field.key_injective same
        exact ⟨fresh, _, shown, rfl⟩
    | other unknown => exact absurd same (unknown field)
  · rintro ⟨fresh, content, shown, rfl⟩
    exact .field fresh shown

theorem takes_other_iff (unknown : ∀ field : Field, field.key ≠ name) :
    draft.Takes value name next ↔ next = draft := by
  constructor
  · intro takes
    cases takes with
    | field => exact absurd rfl (unknown _)
    | other => rfl
  · rintro rfl
    exact .other unknown

/-- A member is taken from its name on, up to the end of its value. -/
theorem withField_eq_ok_iff (gap : Blanks between) (leading : Blanks blanks)
    (written : Written .value value) (ended : Ended rest) (after : List Char) :
    draft.withField name (between ++ ':' :: (blanks ++ (value ++ rest))) = .ok (next, after) ↔
      draft.Takes value name next ∧ after = rest := by
  by_cases known : ∃ field : Field, field.key = name
  · obtain ⟨field, rfl⟩ := known
    rw [withField_key, readColon_append gap, takes_key_iff]
    cases fresh : draft.content field with
    | some => simp
    | none =>
        simp only [Option.isSome_none, Bool.false_eq_true, if_false, bind_eq_ok_iff,
          Except.ok.injEq, exists_eq_left', field.read_blanks leading]
        constructor
        · rintro ⟨⟨content, _⟩, read, ⟨⟩⟩
          obtain ⟨shown, rfl⟩ := (field.read_eq_ok_iff written ended _ _).mp read
          exact ⟨⟨trivial, content, shown, rfl⟩, rfl⟩
        · rintro ⟨⟨-, content, shown, rfl⟩, rfl⟩
          exact ⟨_, (field.read_eq_ok_iff written ended _ content).mpr ⟨shown, rfl⟩, rfl⟩
  · have unknown : ∀ field : Field, field.key ≠ name := not_exists.mp known
    have enough : value.length ≤ (blanks ++ (value ++ rest)).length + 1 := by
      simp only [List.length_append]
      omega
    have skipped := written.skips _ rest enough ended
    rw [withField_other draft unknown, readColon_append gap, takes_other_iff unknown]
    simp only [bind_eq_ok_iff, Except.ok.injEq, exists_eq_left', skipValue_blanks leading, skipped]
    constructor
    · rintro ⟨⟩
      exact ⟨rfl, rfl⟩
    · rintro ⟨rfl, rfl⟩
      rfl

end

section

variable {draft final : Draft} {member : Member} {members : List Member} {fuel : Nat}
  {blanks inside input labelled rest tail : List Char}

theorem readFields_done (blank : Blanks blanks) (first : Bool) (draft : Draft) (rest : List Char) :
    readFields (fuel + 1) first draft (blanks ++ '}' :: rest) = .ok (draft, rest) := by
  have brace : skipBlanks ('}' :: rest) = '}' :: rest := rfl
  rw [readFields, nextField, skipBlanks_append blank, brace]
  rfl

theorem readFields_quote (first : skipBlanks input = '"' :: tail) (draft : Draft) :
    readFields (fuel + 1) true draft input = (do
      let (name, rest) ← string tail
      let (draft, rest) ← draft.withField name rest
      readFields fuel false draft rest) := by
  rw [readFields, nextField, first]
  rfl

/-- After a comma a field is read as the first one is. -/
theorem readFields_comma (blank : Blanks blanks) (first : skipBlanks input = '"' :: tail)
    (draft : Draft) :
    readFields fuel false draft (blanks ++ ',' :: input) = readFields fuel true draft input := by
  cases fuel with
  | zero => rfl
  | succ fuel =>
      have comma : skipBlanks (',' :: input) = ',' :: input := rfl
      rw [readFields_quote first, readFields, nextField, skipBlanks_append blank, comma]
      simp [first, bind, Except.bind]

/-- A member is read as far as its value goes; the blanks after it are left. -/
theorem readFields_labelled (fuel : Nat) (label : Labelled member labelled)
    (written : Written .value member.value) (ended : Ended rest) :
    ∃ blanks, Blanks blanks ∧ ∀ (draft final : Draft) (after : List Char),
      readFields (fuel + 1) true draft (labelled ++ rest) = .ok (final, after) ↔
        ∃ (name : String) (next : Draft), Spells member.key name.toList ∧
          draft.Takes member.value name next ∧
          readFields fuel false next (blanks ++ rest) = .ok (final, after) := by
  obtain @⟨before, between, _, leading, key, gap, @⟨lead, trail, inner, trailing⟩⟩ := label
  refine ⟨trail, trailing, fun draft final after => ?_⟩
  have outer : Ended (trail ++ rest) := ended.blanks_append trailing
  have quote (tail : List Char) : skipBlanks (before ++ '"' :: tail) = '"' :: tail :=
    skipBlanks_append leading _
  simp only [List.append_assoc, List.cons_append]
  rw [readFields_quote (quote _), bind_eq_ok_iff]
  constructor
  · rintro ⟨⟨name, _⟩, read, more⟩
    obtain ⟨spells, rfl⟩ := (string_eq_ok_iff key _ _ _).mp read
    obtain ⟨⟨next, _⟩, taken, more⟩ := bind_eq_ok_iff.mp more
    obtain ⟨takes, rfl⟩ := (withField_eq_ok_iff gap inner written outer _).mp taken
    exact ⟨name, next, spells, takes, more⟩
  · rintro ⟨name, next, spells, takes, more⟩
    have taken := (withField_eq_ok_iff gap inner written outer _).mpr ⟨takes, rfl⟩
    exact ⟨_, (string_eq_ok_iff key _ _ name).mpr ⟨spells, rfl⟩,
      bind_eq_ok_iff.mpr ⟨_, taken, more⟩⟩

theorem reads_nil_iff : draft.Reads [] final ↔ final = draft := by
  constructor
  · rintro ⟨⟩
    rfl
  · rintro rfl
    exact .nil

theorem reads_cons_iff :
    draft.Reads (member :: members) final ↔
      ∃ (name : String) (next : Draft), Spells member.key name.toList ∧
        draft.Takes member.value name next ∧ next.Reads members final := by
  constructor
  · intro reads
    cases reads with
    | cons named takes more => exact ⟨_, _, named, takes, more⟩
  · rintro ⟨name, next, named, takes, more⟩
    exact .cons named takes more

/-- The members of a record are read in turn, up to the bracket after them. -/
theorem readFields_eq_ok_iff (written : Written (.fields members) inside)
    (enough : members.length < fuel) (draft final : Draft) (rest after : List Char) :
    readFields fuel true draft (inside ++ '}' :: rest) = .ok (final, after) ↔
      draft.Reads members final ∧ after = rest := by
  induction members generalizing inside fuel draft with
  | nil =>
      obtain ⟨fuel, rfl⟩ := Nat.exists_eq_add_one_of_ne_zero (Nat.ne_of_gt enough)
      cases written with
      | noField blank =>
          rw [readFields_done blank, reads_nil_iff, Except.ok.injEq, Prod.mk.injEq,
            @eq_comm _ draft, @eq_comm _ rest]
  | cons member members ih =>
      obtain ⟨fuel, rfl⟩ := Nat.exists_eq_add_one_of_ne_zero (Nat.ne_zero_of_lt enough)
      have fewer : members.length < fuel := Nat.lt_of_succ_lt_succ enough
      rw [reads_cons_iff]
      simp only [← exists_and_right, and_assoc]
      cases written with
      | lastField label value =>
          obtain ⟨fuel, rfl⟩ := Nat.exists_eq_add_one_of_ne_zero (Nat.ne_of_gt fewer)
          obtain ⟨blanks, blank, read⟩ := readFields_labelled (fuel + 1) label value
            (ended_cons (c := '}') (by decide) rest)
          rw [read]
          refine exists_congr fun name => exists_congr fun next =>
            and_congr_right fun _ => and_congr_right fun _ => ?_
          rw [readFields_done blank, reads_nil_iff, Except.ok.injEq, Prod.mk.injEq,
            @eq_comm _ next, @eq_comm _ rest]
      | @field _ _ _ _ others label value more =>
          obtain ⟨blanks, blank, read⟩ := readFields_labelled fuel label value
            (ended_cons (c := ',') (by decide) (others ++ '}' :: rest))
          obtain ⟨tail, first⟩ := more.exists_skipBlanks_fields ('}' :: rest)
          rw [List.append_assoc, List.cons_append, read]
          refine exists_congr fun name => exists_congr fun next =>
            and_congr_right fun _ => and_congr_right fun _ => ?_
          rw [readFields_comma blank first]
          exact ih more fewer next

end

end Draft

end WalletScreens.Wallet.Account

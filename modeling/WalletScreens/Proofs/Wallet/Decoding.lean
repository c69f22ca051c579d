import Mathlib.Data.List.Forall2
import WalletScreens.Proofs.Json.Items
import WalletScreens.Proofs.Wallet.Drafting

/-!
Which account a record describes.

That is told by the members that have the name of a field, however the name is spelled.  Neither
their order nor the members between them make a difference.
-/

namespace WalletScreens.Wallet.Account

open Json

namespace Field

/-- A member has the name of a field. -/
def Labels (field : Field) (member : Member) : Prop :=
  Spells member.key field.key.toList

def Missing (field : Field) (members : List Member) : Prop :=
  ∀ member ∈ members, ¬ field.Labels member

def Repeated (field : Field) (members : List Member) : Prop :=
  ∃ before first between second after,
    members = before ++ first :: (between ++ second :: after) ∧ field.Labels first ∧
      field.Labels second

/-- What the members of a record show of a field, which must not be there twice. -/
inductive Shown (field : Field) : List Member → Option Content → Prop
  | missing {members : List Member} (missing : field.Missing members) : Shown field members none
  | once {before after : List Member} {member : Member} {content : Content}
      (earlier : field.Missing before) (label : field.Labels member)
      (later : field.Missing after) (shown : field.Shows content member.value) :
      Shown field (before ++ member :: after) (some content)

/-- What is known of a field once the members are read that show `new`. -/
def Fills (field : Field) (old : Option Content) (members : List Member) (new : Option Content) :
    Prop :=
  ∃ found, field.Shown members found ∧ (found = none ∨ old = none) ∧ new = found.or old

variable {field : Field} {found old new : Option Content} {name : String} {member : Member}
  {members : List Member}

theorem labels_iff (named : Spells member.key name.toList) :
    field.Labels member ↔ field.key = name := by
  constructor
  · exact fun label => String.toList_injective (label.unique named)
  · rintro rfl
    exact named

theorem missing_cons_iff :
    field.Missing (member :: members) ↔ ¬ field.Labels member ∧ field.Missing members :=
  List.forall_mem_cons

theorem shown_cons_of_not (other : ¬ field.Labels member) :
    field.Shown (member :: members) found ↔ field.Shown members found := by
  constructor
  · generalize whole : member :: members = all
    intro shown
    cases shown with
    | missing missing =>
        subst whole
        exact .missing (missing_cons_iff.mp missing).2
    | @once before _ _ _ earlier label later shown =>
        cases before with
        | nil =>
            cases whole
            contradiction
        | cons first before =>
            cases whole
            exact .once (missing_cons_iff.mp earlier).2 label later shown
  · intro shown
    cases shown with
    | missing missing => exact .missing (missing_cons_iff.mpr ⟨other, missing⟩)
    | once earlier label later shown =>
        rw [← List.cons_append]
        exact .once (missing_cons_iff.mpr ⟨other, earlier⟩) label later shown

theorem shown_cons_of_labels (label : field.Labels member) :
    field.Shown (member :: members) found ↔
      field.Missing members ∧ ∃ content, field.Shows content member.value ∧
        found = some content := by
  constructor
  · generalize whole : member :: members = all
    intro shown
    cases shown with
    | missing missing =>
        subst whole
        exact absurd label (missing_cons_iff.mp missing).1
    | @once before _ _ _ earlier _ later shown =>
        cases before with
        | nil =>
            cases whole
            exact ⟨later, _, shown, rfl⟩
        | cons first before =>
            cases whole
            exact absurd label (missing_cons_iff.mp earlier).1
  · rintro ⟨missing, content, shown, rfl⟩
    rw [← List.nil_append (member :: members)]
    exact .once nofun label missing shown

theorem fills_cons_of_not (other : ¬ field.Labels member) :
    field.Fills old (member :: members) new ↔ field.Fills old members new := by
  simp only [Fills, shown_cons_of_not other]

theorem fills_some_iff {content : Content} :
    field.Fills (some content) members new ↔ field.Missing members ∧ new = some content := by
  constructor
  · rintro ⟨_, shown, rfl | fresh, rfl⟩
    · cases shown with
      | missing missing => exact ⟨missing, rfl⟩
    · contradiction
  · rintro ⟨missing, rfl⟩
    exact ⟨none, .missing missing, .inl rfl, rfl⟩

theorem fills_none_iff : field.Fills none members new ↔ field.Shown members new := by
  constructor
  · rintro ⟨found, shown, -, rfl⟩
    rwa [Option.or_none]
  · exact fun shown => ⟨new, shown, .inr rfl, (Option.or_none).symm⟩

/-- The member that has the name of a field fills it, and has to be the only one. -/
theorem fills_cons_of_labels (label : field.Labels member) :
    field.Fills old (member :: members) new ↔
      old = none ∧ ∃ content, field.Shows content member.value ∧
        field.Fills (some content) members new := by
  simp only [fills_some_iff]
  constructor
  · rintro ⟨found, whole, fresh, rfl⟩
    obtain ⟨missing, content, shown, rfl⟩ := (shown_cons_of_labels label).mp whole
    obtain rfl := fresh.resolve_left nofun
    exact ⟨rfl, content, shown, missing, rfl⟩
  · rintro ⟨rfl, content, shown, missing, rfl⟩
    exact ⟨some content, (shown_cons_of_labels label).mpr ⟨missing, content, shown, rfl⟩,
      .inr rfl, rfl⟩

theorem fills_nil_iff : field.Fills old [] new ↔ new = old := by
  constructor
  · rintro ⟨found, shown, -, rfl⟩
    generalize whole : ([] : List Member) = none at shown
    cases shown with
    | missing => rfl
    | once => exact absurd whole (List.append_ne_nil_of_right_ne_nil _ (List.cons_ne_nil _ _)).symm
  · rintro rfl
    exact ⟨none, .missing nofun, .inl rfl, rfl⟩

end Field

/-- The members have names, and show every field of an account once; but a balance of zero need not
be there. -/
structure DescribedBy (account : Account) (members : List Member) : Prop where
  spelled : ∀ member ∈ members, ∃ name : String, Spells member.key name.toList
  shown : ∀ field : Field, field.Shown members (some (account.content field)) ∨
    field.isBalance = true ∧ account.content field = .word 0 ∧ field.Missing members

section

variable {draft final : Draft} {account : Account} {members : List Member}

theorem Draft.Takes.content_of_not {next : Draft} {value : List Char} {name : String}
    {field : Field} (takes : draft.Takes value name next) (other : field.key ≠ name) :
    next.content field = draft.content field := by
  cases takes with
  | field _ shown => rw [content_put shown, if_neg fun same => other (congrArg Field.key same)]
  | other => rfl

/-- Whatever the order of the members is, each field is filled on its own. -/
theorem Draft.reads_iff :
    draft.Reads members final ↔
      (∀ member ∈ members, ∃ name : String, Spells member.key name.toList) ∧
        ∀ field : Field, field.Fills (draft.content field) members (final.content field) := by
  induction members generalizing draft with
  | nil =>
      simp only [reads_nil_iff, Field.fills_nil_iff]
      constructor
      · rintro rfl
        exact ⟨nofun, fun field => rfl⟩
      · exact fun same => ext_content same.2
  | cons member members ih =>
      rw [reads_cons_iff, List.forall_mem_cons]
      simp only [ih]
      constructor
      · rintro ⟨name, next, named, takes, spelled, fills⟩
        refine ⟨⟨⟨name, named⟩, spelled⟩, fun field => ?_⟩
        have filled := fills field
        by_cases label : field.Labels member
        · obtain rfl := (Field.labels_iff named).mp label
          obtain ⟨fresh, content, shown, rfl⟩ := takes_key_iff.mp takes
          rw [content_put shown, if_pos rfl] at filled
          exact (Field.fills_cons_of_labels label).mpr ⟨fresh, content, shown, filled⟩
        · rw [Field.fills_cons_of_not label]
          rwa [takes.content_of_not fun same => label ((Field.labels_iff named).mpr same)] at filled
      · rintro ⟨⟨⟨name, named⟩, spelled⟩, fills⟩
        by_cases known : ∃ field : Field, field.key = name
        · obtain ⟨field, rfl⟩ := known
          obtain ⟨fresh, content, shown, filled⟩ :=
            (Field.fills_cons_of_labels named).mp (fills field)
          refine ⟨field.key, draft.put field content, named, .field fresh shown, spelled,
            fun other => ?_⟩
          rw [content_put shown]
          by_cases same : other = field
          · rwa [if_pos same, same]
          · rw [if_neg same]
            have label : ¬ other.Labels member := fun label =>
              same (Field.key_injective ((Field.labels_iff named).mp label))
            exact (Field.fills_cons_of_not label).mp (fills other)
        · have unknown : ∀ field : Field, field.key ≠ name := not_exists.mp known
          refine ⟨name, draft, named, .other unknown, spelled, fun field => ?_⟩
          have other : ¬ field.Labels member := fun label =>
            unknown field ((Field.labels_iff named).mp label)
          exact (Field.fills_cons_of_not other).mp (fills field)

theorem Draft.reads_empty_iff :
    ({} : Draft).Reads members final ↔
      (∀ member ∈ members, ∃ name : String, Spells member.key name.toList) ∧
        ∀ field : Field, field.Shown members (final.content field) := by
  rw [reads_iff]
  refine and_congr_right fun _ => forall_congr' fun field => ?_
  have fresh : ({} : Draft).content field = none := by cases field <;> rfl
  rw [fresh, Field.fills_none_iff]

theorem Draft.getD_of_content {balance : UInt64} {old : Option UInt64}
    (known : old.map Content.word = some (.word balance) ∨
      Content.word balance = .word 0 ∧ old.map Content.word = none) : old.getD 0 = balance := by
  cases old with
  | none =>
      obtain ⟨⟨⟩, -⟩ := known.resolve_left nofun
      rfl
  | some value =>
      obtain ⟨⟩ := known.resolve_right nofun
      rfl

/-- A draft is complete if every field is there that is not a balance. -/
theorem Draft.account?_eq_some_iff :
    draft.account? = some account ↔
      ∀ field : Field, draft.content field = some (account.content field) ∨
        field.isBalance = true ∧ account.content field = .word 0 ∧ draft.content field = none := by
  obtain ⟨id, name, spendKey, scanKey, coins, votes⟩ := draft
  constructor
  · intro made
    simp only [account?, bind, pure, Option.bind_eq_some_iff, Option.some.injEq] at made
    obtain ⟨_, rfl, _, rfl, _, rfl, _, rfl, rfl⟩ := made
    intro field
    cases field with
    | id | name | spendKey | scanKey => exact .inl rfl
    | coins => cases coins <;> simp [content, Account.content, Field.isBalance]
    | votes => cases votes <;> simp [content, Account.content, Field.isBalance]
  · intro contents
    have coins := getD_of_content ((contents .coins).imp_right And.right)
    have votes := getD_of_content ((contents .votes).imp_right And.right)
    have id := (contents .id).resolve_right nofun
    have name := (contents .name).resolve_right nofun
    have spendKey := (contents .spendKey).resolve_right nofun
    have scanKey := (contents .scanKey).resolve_right nofun
    simp only [content, Account.content, Option.map_eq_some_iff] at id name spendKey scanKey
    obtain ⟨_, rfl, ⟨⟩⟩ := id
    obtain ⟨_, rfl, ⟨⟩⟩ := name
    obtain ⟨_, rfl, ⟨⟩⟩ := spendKey
    obtain ⟨_, rfl, ⟨⟩⟩ := scanKey
    simp only [account?, bind, pure, Option.bind_some, coins, votes]

theorem DescribedBy.required (described : account.DescribedBy members) {field : Field}
    (other : field.isBalance = false) : field.Shown members (some (account.content field)) :=
  (described.shown field).resolve_right fun missing =>
    absurd missing.1 (ne_true_of_eq_false other)

/-- A balance that is missing stays out of a draft, to be read as zero. -/
theorem DescribedBy.exists_balance (described : account.DescribedBy members) (field : Field)
    {value : UInt64} (held : account.content field = .word value) :
    ∃ old : Option UInt64, field.Shown members (old.map .word) ∧
      (old.map Content.word = some (account.content field) ∨
        field.isBalance = true ∧ account.content field = .word 0 ∧ old.map Content.word = none) := by
  rcases described.shown field with given | ⟨optional, zero, missing⟩
  · rw [held] at given
    exact ⟨some value, given, .inl (congrArg some held.symm)⟩
  · exact ⟨none, .missing missing, .inr ⟨optional, zero, rfl⟩⟩

/-- An account is made of the members of a record just when they describe it. -/
theorem describedBy_iff :
    account.DescribedBy members ↔
      ∃ draft, ({} : Draft).Reads members draft ∧ draft.account? = some account := by
  simp only [Draft.reads_empty_iff, Draft.account?_eq_some_iff]
  constructor
  · intro described
    obtain ⟨coins, coinsShown, coinsHeld⟩ := described.exists_balance .coins rfl
    obtain ⟨votes, votesShown, votesHeld⟩ := described.exists_balance .votes rfl
    refine ⟨⟨some account.id, some account.name, some account.spendKey, some account.scanKey, coins,
      votes⟩, ⟨described.spelled, fun field => ?_⟩, fun field => ?_⟩
    · cases field with
      | id | name | spendKey | scanKey => exact described.required rfl
      | coins => exact coinsShown
      | votes => exact votesShown
    · cases field with
      | id | name | spendKey | scanKey => exact .inl rfl
      | coins => exact coinsHeld
      | votes => exact votesHeld
  · rintro ⟨draft, ⟨spelled, shown⟩, contents⟩
    refine ⟨spelled, fun field => ?_⟩
    have found := shown field
    rcases contents field with given | ⟨balance, zero, absent⟩
    · rw [given] at found
      exact .inl found
    · rw [absent] at found
      cases found with
      | missing missing => exact .inr ⟨balance, zero, missing⟩

end

section

variable {account : Account} {members others : List Member} {value : List Char}

theorem read_blanks {blanks : List Char} (blank : Blanks blanks) (input : List Char) :
    Account.read (blanks ++ input) = Account.read input := by
  rw [Account.read, Account.read, skipBlanks_append blank]

/-- A record is read as the account that its members describe, up to its bracket. -/
theorem read_eq_ok_iff (recorded : Recorded members value) (account : Account)
    (rest after : List Char) :
    Account.read (value ++ rest) = .ok (account, after) ↔
      account.DescribedBy members ∧ after = rest := by
  obtain @⟨inside, written⟩ := recorded
  have enough : members.length < (inside ++ '}' :: rest).length + 1 := by
    have bounded := written.length_le_fields
    rw [List.length_append]
    omega
  have start : skipBlanks ('{' :: (inside ++ '}' :: rest)) = '{' :: (inside ++ '}' :: rest) := rfl
  rw [List.cons_append, List.append_assoc, List.singleton_append, Account.read, start,
    describedBy_iff]
  simp only [bind_eq_ok_iff]
  constructor
  · rintro ⟨⟨draft, _⟩, found, made⟩
    obtain ⟨reads, rfl⟩ := (Draft.readFields_eq_ok_iff written enough ..).mp found
    cases complete : draft.account? with
    | none => simp [complete] at made
    | some account =>
        simp only [complete] at made
        cases made
        exact ⟨⟨draft, reads, complete⟩, rfl⟩
  · rintro ⟨⟨draft, reads, complete⟩, rfl⟩
    refine ⟨_, (Draft.readFields_eq_ok_iff written enough {} draft _ _).mpr ⟨reads, rfl⟩, ?_⟩
    simp only [complete]
    rfl

theorem parse_eq_ok_iff {text : String} (recorded : Recorded members value)
    (padding : Padded value text.toList) (account : Account) :
    parse text = .ok account ↔ account.DescribedBy members := by
  have known : ReadsValue Account.read (fun _ account => account.DescribedBy members) value :=
    fun rest _ account => read_eq_ok_iff recorded account rest
  exact finish_eq_ok_iff read_blanks padding known account

theorem read_alone_iff (recorded : Recorded members value) (account : Account) :
    Account.read value = .ok (account, []) ↔ account.DescribedBy members := by
  have alone := read_eq_ok_iff recorded account [] []
  rwa [List.append_nil, and_iff_left rfl] at alone

/-- A record is read in any company as it is read alone. -/
theorem readsValue_read (recorded : Recorded members value) :
    ReadsValue Account.read (fun value account => Account.read value = .ok (account, []))
      value := by
  intro rest _ account after
  dsimp only
  rw [read_eq_ok_iff recorded, read_alone_iff recorded]

theorem forall₂_read_iff {layouts : List (List Member)} {values : List (List Char)}
    (recorded : List.Forall₂ Recorded layouts values) (accounts : List Account) :
    List.Forall₂ (fun value account => Account.read value = .ok (account, [])) values accounts ↔
      List.Forall₂ DescribedBy accounts layouts := by
  induction recorded generalizing accounts with
  | nil => cases accounts <;> simp
  | cons first _ ih =>
      cases accounts with
      | nil => simp
      | cons account accounts => simp only [List.forall₂_cons, read_alone_iff first, ih]

/-- A list of records is read as the accounts that they describe, one after the other. -/
theorem parseList_eq_ok_iff {text : String} {layouts : List (List Member)}
    {values : List (List Char)} {listed : List Char}
    (recorded : List.Forall₂ Recorded layouts values) (list : Listed values listed)
    (padding : Padded listed text.toList) (accounts : List Account) :
    parseList text = .ok accounts ↔ List.Forall₂ DescribedBy accounts layouts := by
  have known : ∀ value ∈ values, ReadsValue Account.read
      (fun value account => Account.read value = .ok (account, [])) value := by
    clear list
    induction recorded with
    | nil => nofun
    | cons first _ ih => exact List.forall_mem_cons.mpr ⟨readsValue_read first, ih⟩
  have each : ReadsValue (readList Account.read) (fun _ accounts => List.Forall₂
      (fun value account => Account.read value = .ok (account, [])) values accounts) listed :=
    fun rest _ accounts => readList_eq_ok_iff list known accounts rest
  exact (finish_eq_ok_iff readList_blanks padding each accounts).trans
    (forall₂_read_iff recorded accounts)

end

end WalletScreens.Wallet.Account

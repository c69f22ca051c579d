import WalletScreens.Proofs.Text.Numeral
import WalletScreens.Proofs.Text.Trimming
import WalletScreens.Proofs.Wallet.PageName
import WalletScreens.Session.Event

/-!
The lines of a session, as a grammar.

The grammar is about a line without the blanks at its ends.  A line that is of none of its forms is
an unknown command, and every event but that one has a line of its own.
-/

namespace WalletScreens.Session

open Text Wallet

/-- The forms of a trimmed line, and the event that each stands for. -/
inductive Means : List Char → Event → Prop where
  | toggle : Means ['t'] .toggle
  | quit : Means ['q'] .quit
  | submit : Means ['e', 'n', 't', 'e', 'r'] .submit
  | redraw : Means [] .redraw
  | select {gap number : List Char} {id : UInt64} (apart : Gap gap)
      (numeral : Numeral number id.toNat) : Means (['s'] ++ gap ++ number) (.select id)
  | turnTo {gap word : List Char} {page : Page} (apart : Gap gap) (named : page.Named word) :
      Means (['p'] ++ gap ++ word) (.turnTo page)
  | clear {gap field : List Char} (apart : Gap gap) (word : Unbroken field) (nonempty : field ≠ []) :
      Means (['f'] ++ gap ++ field) (.fill (String.ofList field) "")
  | fill {gap field space value : List Char} (apart : Gap gap) (word : Unbroken field)
      (nonempty : field ≠ []) (aside : Gap space) (trimmed : Trimmed value) (some : value ≠ []) :
      Means (['f'] ++ gap ++ (field ++ space ++ value))
        (.fill (String.ofList field) (String.ofList value))

variable {chars command rest gap field : List Char} {event : Event}

theorem accountId?_eq_some_iff (word : List Char) (id : UInt64) :
    accountId? word = some id ↔ Numeral word id.toNat := by
  rw [accountId?, Option.map_eq_some_iff]
  constructor
  · rintro ⟨number, read, rfl⟩
    obtain ⟨numeral, fits⟩ := (natural?_eq_some_iff ..).mp read
    have below : number < 2 ^ 64 := by
      unfold wordLimit at fits
      omega
    rwa [UInt64.toNat_ofNat_of_lt' below]
  · intro numeral
    have fits : id.toNat ≤ wordLimit := Nat.le_of_lt_succ id.toNat_lt
    exact ⟨id.toNat, (natural?_eq_some_iff ..).mpr ⟨numeral, fits⟩, UInt64.ofNat_toNat⟩

theorem Event.parse_eq (line : String) :
    Event.parse line =
      (Event.ofCommand (cut (trim line.toList)).1 (cut (trim line.toList)).2).getD
        (.unknown (String.ofList (trim line.toList))) := rfl

theorem Event.ofFilling_eq (rest : List Char) :
    Event.ofFilling rest = .fill (String.ofList (cut rest).1) (String.ofList (cut rest).2) := rfl

theorem Event.ofCommand_fill (nonempty : rest ≠ []) :
    Event.ofCommand ['f'] rest = some (.ofFilling rest) := by
  cases rest with
  | nil => contradiction
  | cons c rest => rfl

theorem unbroken_letter {c : Char} (letter : isBlank c = false) : Unbroken [c] :=
  List.forall_mem_singleton.mpr letter

/-- Each form is cut into a command and what that command takes. -/
theorem Means.ofCommand (means : Means chars event) :
    Event.ofCommand (cut chars).1 (cut chars).2 = some event := by
  cases means with
  | toggle => rfl
  | quit => rfl
  | submit => rfl
  | redraw => rfl
  | select apart numeral =>
      rw [cut_append (unbroken_letter rfl) apart numeral.unbroken.trimmed]
      exact congrArg (Option.map Event.select) ((accountId?_eq_some_iff ..).mpr numeral)
  | turnTo apart named =>
      rw [cut_append (unbroken_letter rfl) apart named.unbroken.trimmed]
      exact congrArg (Option.map Event.turnTo) ((Page.ofWord?_eq_some_iff ..).mpr named)
  | @clear gap field apart word nonempty =>
      rw [cut_append (unbroken_letter rfl) apart word.trimmed, Event.ofCommand_fill nonempty,
        Event.ofFilling_eq, cut_of_unbroken word]
  | @fill gap field space value apart word nonempty aside trimmed written =>
      have body := trimmed_append word.trimmed nonempty trimmed written space
      rw [cut_append (unbroken_letter rfl) apart body, Event.ofCommand_fill (by simp [nonempty]),
        Event.ofFilling_eq, cut_append word aside trimmed]

theorem means_ofFilling (apart : Gap gap) (trimmed : Trimmed rest) (nonempty : rest ≠ []) :
    Means (['f'] ++ gap ++ rest) (.ofFilling rest) := by
  rw [Event.ofFilling_eq]
  rcases trimmed.unbroken_or_gap with
    word | ⟨field, space, value, rfl, word, named, aside, inner, written⟩
  · rw [cut_of_unbroken word]
    exact .clear apart word nonempty
  · rw [cut_append word aside inner]
    exact .fill apart word named aside inner written

theorem means_of_word {word : List Char} (read : Event.ofCommand word [] = some event) :
    Means word event := by
  unfold Event.ofCommand at read
  split at read
  any_goals contradiction
  · cases read
    exact .redraw
  · cases read
    exact .toggle
  · cases read
    exact .quit
  · cases read
    exact .submit

theorem means_of_rest {word : List Char} (read : Event.ofCommand word rest = some event)
    (apart : Gap gap) (trimmed : Trimmed rest) (nonempty : rest ≠ []) :
    Means (word ++ gap ++ rest) event := by
  unfold Event.ofCommand at read
  split at read
  any_goals contradiction
  · obtain ⟨id, numeral, rfl⟩ := Option.map_eq_some_iff.mp read
    exact .select apart ((accountId?_eq_some_iff ..).mp numeral)
  · obtain ⟨page, named, rfl⟩ := Option.map_eq_some_iff.mp read
    exact .turnTo apart ((Page.ofWord?_eq_some_iff ..).mp named)
  · cases read
    exact means_ofFilling apart trimmed nonempty

/-- What a command takes is of one of the forms. -/
theorem means_of_ofCommand (trimmed : Trimmed chars)
    (read : Event.ofCommand (cut chars).1 (cut chars).2 = some event) : Means chars event := by
  rcases trimmed.unbroken_or_gap with
    word | ⟨command, gap, rest, rfl, word, -, apart, inner, nonempty⟩
  · rw [cut_of_unbroken word] at read
    exact means_of_word read
  · rw [cut_append word apart inner] at read
    exact means_of_rest read apart inner nonempty

/-- A line is read by the grammar where it is of one of its forms, and left unknown elsewhere. -/
theorem Event.parse_eq_iff (line : String) (event : Event) :
    Event.parse line = event ↔
      Means (trim line.toList) event ∨ (∀ other, ¬ Means (trim line.toList) other) ∧
        event = .unknown (String.ofList (trim line.toList)) := by
  obtain ⟨-, -, -, -, -, trimmed⟩ := exists_trim line.toList
  rw [Event.parse_eq]
  cases read : Event.ofCommand (cut (trim line.toList)).1 (cut (trim line.toList)).2 with
  | some found =>
      have formed := means_of_ofCommand trimmed read
      constructor
      · rintro rfl
        exact .inl formed
      · rintro (means | ⟨formless, -⟩)
        · exact Option.some.inj (read.symm.trans means.ofCommand)
        · exact absurd formed (formless found)
  | none =>
      have formless (other : Event) : ¬ Means (trim line.toList) other := fun means => by
        cases read.symm.trans means.ofCommand
      constructor
      · rintro rfl
        exact .inr ⟨formless, rfl⟩
      · rintro (means | ⟨-, rfl⟩)
        · exact absurd means (formless event)
        · rfl

theorem Event.parse_append {before after : String} (leading : Blank before.toList)
    (trailing : Blank after.toList) (line : String) :
    Event.parse (before ++ line ++ after) = Event.parse line := by
  have same : trim (before ++ line ++ after).toList = trim line.toList := by
    rw [String.toList_append, String.toList_append, trim_append leading trailing]
  rw [Event.parse_eq, Event.parse_eq, same]

/-- The line to type for an event. -/
def Event.line : Event → String
  | .toggle => "t"
  | .select id => "s " ++ Nat.repr id.toNat
  | .turnTo page => "p " ++ page.name
  | .fill field value => "f " ++ field ++ " " ++ value
  | .submit => "enter"
  | .redraw => ""
  | .quit => "q"
  | .unknown input => input

/-- A field is one word and a value has no blank at its ends.  No line is typed for an unknown
command. -/
def Event.Writable : Event → Prop
  | .fill field value => Unbroken field.toList ∧ field ≠ "" ∧ Trimmed value.toList
  | .unknown _ => False
  | _ => True

theorem gap_space : Gap [' '] :=
  ⟨List.forall_mem_singleton.mpr rfl, List.cons_ne_nil _ _⟩

theorem means_line (writable : event.Writable) : Means (trim event.line.toList) event := by
  cases event with
  | toggle => exact .toggle
  | submit => exact .submit
  | redraw => exact .redraw
  | quit => exact .quit
  | unknown input => exact writable.elim
  | select id =>
      have numeral := (digits_repr id.toNat).numeral
      have whole := trimmed_append (unbroken_letter rfl).trimmed (List.cons_ne_nil 's' [])
        numeral.unbroken.trimmed numeral.ne_nil [' ']
      have spelled : (Event.select id).line.toList = ['s'] ++ [' '] ++ (Nat.repr id.toNat).toList :=
        String.toList_append
      rw [spelled, trim_of_trimmed whole]
      exact .select gap_space numeral
  | turnTo page =>
      have named : page.Named page.name.toList :=
        ⟨page.name, page.name_mem_words, List.forall₂_same.mpr fun letter _ => .inl rfl⟩
      have spelled : trim (Event.turnTo page).line.toList = ['p'] ++ [' '] ++ page.name.toList := by
        cases page <;> decide
      rw [spelled]
      exact .turnTo gap_space named
  | fill field value =>
      obtain ⟨word, named, trimmed⟩ := writable
      have nonempty : field.toList ≠ [] := fun nothing => named (String.toList_eq_nil_iff.mp nothing)
      have letter : Trimmed ['f'] := (unbroken_letter rfl).trimmed
      have spelled : (Event.fill field value).line.toList =
          ['f'] ++ [' '] ++ (field.toList ++ [' '] ++ value.toList) := by
        simp [Event.line]
      rw [spelled]
      by_cases empty : value = ""
      · subst empty
        have whole := trimmed_append letter (List.cons_ne_nil _ _) word.trimmed nonempty [' ']
        have unfilled : ['f'] ++ [' '] ++ (field.toList ++ [' '] ++ "".toList) =
            [] ++ (['f'] ++ [' '] ++ field.toList) ++ [' '] := by simp
        rw [unfilled, trim_append (List.forall_mem_nil _) gap_space.blank, trim_of_trimmed whole]
        have means := Means.clear gap_space word nonempty
        rwa [String.ofList_toList] at means
      · have written : value.toList ≠ [] := fun nothing => empty (String.toList_eq_nil_iff.mp nothing)
        have body := trimmed_append word.trimmed nonempty trimmed written [' ']
        have whole := trimmed_append letter (List.cons_ne_nil _ _) body (by simp [nonempty]) [' ']
        rw [trim_of_trimmed whole]
        have means := Means.fill gap_space word nonempty gap_space trimmed written
        rwa [String.ofList_toList, String.ofList_toList] at means

theorem Event.parse_line (event : Event) (writable : event.Writable) :
    Event.parse event.line = event :=
  (Event.parse_eq_iff event.line event).mpr (.inl (means_line writable))

/-- The line parser accepts just the grammar.  It looks at what stands between the blanks at the
ends of a line, so more blanks there make no difference, and it reads every event but an unknown
command back from the line to type for it. -/
theorem parse_accepts_grammar (line : String) (event : Event) :
    (∃ before after, Blank before ∧ Blank after ∧
        line.toList = before ++ trim line.toList ++ after ∧ Trimmed (trim line.toList)) ∧
      (Event.parse line = event ↔
        Means (trim line.toList) event ∨ (∀ other, ¬ Means (trim line.toList) other) ∧
          event = .unknown (String.ofList (trim line.toList))) ∧
      (∀ before after : String, Blank before.toList → Blank after.toList →
        Event.parse (before ++ line ++ after) = Event.parse line) ∧
      (event.Writable → Event.parse event.line = event) :=
  ⟨exists_trim line.toList, Event.parse_eq_iff line event,
    fun _ _ leading trailing => Event.parse_append leading trailing line,
    event.parse_line⟩

/-- The largest id there is, with a sign and a zero in front and among blanks of several kinds. -/
theorem parse_of_largest_id :
    let line := "s\u2003+018446744073709551615"
    let event := Event.select 18446744073709551615
    Event.parse line = event ∧ Blank "\u3000\t".toList ∧ Blank "\n".toList ∧
      Event.parse ("\u3000\t" ++ line ++ "\n") = Event.parse line ∧ event.Writable ∧
      Event.parse event.line = event := by
  intro line event
  have leading : Blank "\u3000\t".toList := by decide
  have trailing : Blank "\n".toList := by decide
  have apart : Gap ['\u2003'] := ⟨by decide, by decide⟩
  have digits : Digits "018446744073709551615".toList 18446744073709551615 :=
    ⟨by decide, List.all_eq_true.mp (by decide), by decide⟩
  have formed : trim line.toList =
      ['s'] ++ ['\u2003'] ++ (['+'] ++ "018446744073709551615".toList) := by decide
  have means : Means (trim line.toList) event := by
    rw [formed]
    exact .select apart ⟨['+'], _, rfl, .inr rfl, digits⟩
  obtain ⟨-, parsed, spaced, typed⟩ := parse_accepts_grammar line event
  exact ⟨parsed.mpr (.inl means), leading, trailing, spaced _ _ leading trailing, trivial,
    typed trivial⟩

end WalletScreens.Session

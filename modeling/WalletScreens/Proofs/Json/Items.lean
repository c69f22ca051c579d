import WalletScreens.Proofs.Json.Spelling

/-!
Lists whose items are read alike, and texts that are read as a whole.

If a reader reads each item up to its end, the list is read up to its bracket, each item as the
reader has it, with any blanks between them.  Of a whole text the blanks at both ends make no
difference.
-/

namespace WalletScreens.Json

variable {α : Type} {read : Reader α} {reads : List Char → α → Prop} {fuel : Nat} {c : Char}
  {blanks input inside padded rest tail value : List Char} {values : List (List Char)}

theorem readItems_done (blank : Blanks blanks) (first : Bool) (rest : List Char) :
    readItems read (fuel + 1) first (blanks ++ ']' :: rest) = .ok ([], rest) := by
  have bracket : skipBlanks (']' :: rest) = ']' :: rest := rfl
  rw [readItems, nextItem, skipBlanks_append blank, bracket]
  rfl

theorem nextItem_true (first : skipBlanks input = c :: tail) (other : c ≠ ']') :
    nextItem true input = .ok (.more (skipBlanks input)) := by
  simp [nextItem, first]

/-- After a comma an item is read as the first one is. -/
theorem readItems_comma (blank : Blanks blanks) (first : skipBlanks input = c :: tail)
    (other : c ≠ ']') :
    readItems read fuel false (blanks ++ ',' :: input) = readItems read fuel true input := by
  cases fuel with
  | zero => rfl
  | succ fuel =>
      have comma : skipBlanks (',' :: input) = ',' :: input := rfl
      rw [readItems, readItems, nextItem_true first other, nextItem, skipBlanks_append blank, comma]
      simp [first, other]

/-- What a reader has to make of a value: it is read up to its end, in front of anything that does
not go on with a number. -/
def ReadsValue (read : Reader α) (reads : List Char → α → Prop) (value : List Char) : Prop :=
  ∀ rest, Ended rest → ∀ item after,
    read (value ++ rest) = .ok (item, after) ↔ reads value item ∧ after = rest

/-- An item is read as far as its value goes; the blanks after it are left. -/
theorem readItems_padded (fuel : Nat) (padding : Padded value padded)
    (written : Written .value value) (known : ReadsValue read reads value) (ended : Ended rest) :
    ∃ blanks, Blanks blanks ∧ ∀ items after,
      readItems read (fuel + 1) true (padded ++ rest) = .ok (items, after) ↔
        ∃ item others, (reads value item ∧ items = item :: others) ∧
          readItems read fuel false (blanks ++ rest) = .ok (others, after) := by
  obtain ⟨c, tail, first, other⟩ := padding.exists_skipBlanks written rest
  obtain @⟨lead, trail, leading, trailing⟩ := padding
  refine ⟨trail, trailing, fun items after => ?_⟩
  have outer : Ended (trail ++ rest) := ended.blanks_append trailing
  have start : skipBlanks (lead ++ (value ++ trail) ++ rest) = value ++ (trail ++ rest) := by
    obtain ⟨c, tail, rfl, visible, -⟩ := written.exists_cons
    rw [List.append_assoc, List.append_assoc, skipBlanks_append leading]
    exact skipBlanks_cons visible _
  rw [readItems, nextItem_true first other, start]
  simp only [bind_eq_ok_iff, Except.ok.injEq, exists_eq_left']
  constructor
  · rintro ⟨⟨item, _⟩, taken, ⟨others, _⟩, more, ⟨⟩⟩
    obtain ⟨shown, rfl⟩ := (known _ outer _ _).mp taken
    exact ⟨item, others, ⟨shown, rfl⟩, more⟩
  · rintro ⟨item, others, ⟨shown, rfl⟩, more⟩
    exact ⟨_, (known _ outer item _).mpr ⟨shown, rfl⟩, _, more, rfl⟩

/-- The items of a list are read in turn, up to the bracket after them. -/
theorem readItems_eq_ok_iff (written : Written (.items values) inside)
    (enough : values.length < fuel) (known : ∀ value ∈ values, ReadsValue read reads value)
    (items : List α) (rest after : List Char) :
    readItems read fuel true (inside ++ ']' :: rest) = .ok (items, after) ↔
      List.Forall₂ reads values items ∧ after = rest := by
  induction values generalizing inside fuel items with
  | nil =>
      obtain ⟨fuel, rfl⟩ := Nat.exists_eq_add_one_of_ne_zero (Nat.ne_of_gt enough)
      cases written with
      | noItem blank =>
          rw [readItems_done blank]
          constructor
          · rintro ⟨⟩
            exact ⟨.nil, rfl⟩
          · rintro ⟨⟨⟩, rfl⟩
            rfl
  | cons value values ih =>
      obtain ⟨fuel, rfl⟩ := Nat.exists_eq_add_one_of_ne_zero (Nat.ne_zero_of_lt enough)
      have fewer : values.length < fuel := Nat.lt_of_succ_lt_succ enough
      obtain ⟨own, others⟩ := List.forall_mem_cons.mp known
      cases written with
      | lastItem padding first =>
          obtain ⟨fuel, rfl⟩ := Nat.exists_eq_add_one_of_ne_zero (Nat.ne_of_gt fewer)
          obtain ⟨blanks, blank, read⟩ := readItems_padded (fuel + 1) padding first own
            (ended_cons (c := ']') (by decide) rest)
          rw [read]
          constructor
          · rintro ⟨item, _, ⟨shown, rfl⟩, done⟩
            rw [readItems_done blank] at done
            cases done
            exact ⟨.cons shown .nil, rfl⟩
          · rintro ⟨_ | ⟨shown, _ | _⟩, rfl⟩
            exact ⟨_, [], ⟨shown, rfl⟩, readItems_done blank _ _⟩
      | @item _ _ _ _ inside padding first more =>
          obtain ⟨blanks, blank, read⟩ := readItems_padded fuel padding first own
            (ended_cons (c := ',') (by decide) (inside ++ ']' :: rest))
          obtain ⟨c, tail, start, other⟩ := more.exists_skipBlanks_items (']' :: rest)
          rw [List.append_assoc, List.cons_append, read]
          constructor
          · rintro ⟨item, items, ⟨shown, rfl⟩, found⟩
            rw [readItems_comma blank start other] at found
            obtain ⟨shownAll, rfl⟩ := (ih more fewer others items).mp found
            exact ⟨.cons shown shownAll, rfl⟩
          · rintro ⟨_ | ⟨shown, shownAll⟩, rfl⟩
            have found := (ih more fewer others _).mpr ⟨shownAll, rfl⟩
            rw [← readItems_comma blank start other] at found
            exact ⟨_, _, ⟨shown, rfl⟩, found⟩

theorem readList_eq_ok_iff {chars : List Char} (listed : Listed values chars)
    (known : ∀ value ∈ values, ReadsValue read reads value) (items : List α)
    (rest after : List Char) :
    readList read (chars ++ rest) = .ok (items, after) ↔
      List.Forall₂ reads values items ∧ after = rest := by
  obtain @⟨inside, written⟩ := listed
  have enough : values.length < (inside ++ ']' :: rest).length + 1 := by
    have bounded := written.length_le_items
    rw [List.length_append]
    omega
  have start : skipBlanks ('[' :: (inside ++ ']' :: rest)) = '[' :: (inside ++ ']' :: rest) := rfl
  rw [List.cons_append, List.append_assoc, List.singleton_append, readList, start]
  exact readItems_eq_ok_iff written enough known items rest after

theorem readList_blanks (blank : Blanks blanks) (input : List Char) :
    readList read (blanks ++ input) = readList read input := by
  rw [readList, readList, skipBlanks_append blank]

/-- A whole text is read as the value between its blanks, if the reader minds no blanks. -/
theorem finish_eq_ok_iff
    (blind : ∀ {blanks}, Blanks blanks → ∀ input, read (blanks ++ input) = read input)
    (padding : Padded value padded) (known : ReadsValue read reads value) (item : α) :
    finish (read padded) = .ok item ↔ reads value item := by
  obtain @⟨lead, trail, leading, trailing⟩ := padding
  have done : skipBlanks trail = [] := List.dropWhile_eq_nil_iff.mpr trailing
  have ended : Ended trail := by
    have outer : Ended (trail ++ []) := Ended.blanks_append trailing nofun
    rwa [List.append_nil] at outer
  rw [blind leading]
  constructor
  · intro whole
    cases found : read (value ++ trail) with
    | error fault =>
        rw [found] at whole
        contradiction
    | ok result =>
        obtain ⟨other, after⟩ := result
        obtain ⟨shown, rfl⟩ := (known _ ended other after).mp found
        rw [found, finish, done] at whole
        cases whole
        exact shown
  · intro shown
    rw [(known _ ended item trail).mpr ⟨shown, rfl⟩, finish, done]

end WalletScreens.Json

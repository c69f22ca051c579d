import WalletScreens.Proofs.Text.Fitting

/-!
Texts that are cut twice.

Where the columns of a text are those of its characters, the second cut finds what the first one
left as wide as it was meant to be, the ellipsis included.  So it keeps what a single cut to the
smaller of both limits keeps.
-/

namespace WalletScreens.Text

open Tables

variable {chars : List Char} {c : Char}

/-- Every start of the text takes the columns of its characters, also with an ellipsis behind it. -/
def Additive (chars : List Char) : Prop :=
  ∀ start, start <+: chars →
    width start = (start.map charWidth).sum ∧
      width (start ++ ['…']) = (start.map charWidth).sum + 1

section

variable {text : String} {limit : Nat}

/-- What is left of a text that is cut takes the columns of what is kept and one more. -/
theorem width_truncate_of_lt (additive : Additive text.toList) (wide : limit < width text.toList) :
    width (truncate text limit).toList =
      ((fitting (limit - 1) text.toList).map charWidth).sum + 1 := by
  rw [truncate_of_lt wide, String.toList_ofList]
  exact (additive _ (fitting_isPrefix _ _)).2

theorem width_truncate_le_of_additive (additive : Additive text.toList) (room : 1 ≤ limit) :
    width (truncate text limit).toList ≤ limit := by
  rcases Nat.lt_or_ge limit (width text.toList) with wide | fits
  · have within := sum_fitting_le (limit - 1) text.toList
    rw [width_truncate_of_lt additive wide]
    omega
  · rwa [truncate_of_le fits]

end

/-- A text that was cut keeps under a smaller budget what the text itself does. -/
theorem fitting_append_ellipsis {first second : Nat} {text : List Char} (smaller : second ≤ first)
    (full : second ≤ ((fitting first text).map charWidth).sum) :
    fitting second (fitting first text ++ ['…']) = fitting second text := by
  have wide : second < ((fitting first text).map charWidth).sum + charWidth '…' := by
    rw [charWidth_ellipsis]
    omega
  rw [fitting_append_of_lt wide, fitting_fitting, Nat.min_eq_right smaller]

theorem truncate_truncate {text : String} (additive : Additive text.toList) (first second : Nat) :
    truncate (truncate text first) second = truncate text (min first second) := by
  have own := (additive _ List.prefix_rfl).1
  rcases Nat.lt_or_ge first (width text.toList) with wide | fits
  · have cut := width_truncate_of_lt additive wide
    have within := sum_fitting_le (first - 1) text.toList
    rcases Nat.lt_or_ge second (width (truncate text first).toList) with again | room
    · -- Both cuts take something away, and the second starts from what the first one kept.
      have smaller : second ≤ first := by omega
      rw [truncate_of_lt again, truncate_of_lt wide, String.toList_ofList,
        fitting_append_ellipsis (by omega) (by omega), Nat.min_eq_right smaller,
        truncate_of_lt (by omega)]
    · -- The second cut has room for what is left, ellipsis and all.
      rw [truncate_of_le room, truncate_of_lt wide, truncate_of_lt (by omega)]
      rcases Nat.le_total first second with larger | smaller
      · rw [Nat.min_eq_left larger]
      · rw [Nat.min_eq_right smaller]
        have whole : fitting (second - 1) (fitting (first - 1) text.toList) =
            fitting (first - 1) text.toList := fitting_of_le (by omega)
        rw [← whole, fitting_fitting, Nat.min_eq_right (by omega)]
  · rw [truncate_of_le fits]
    rcases Nat.le_total first second with larger | smaller
    · rw [Nat.min_eq_left larger, truncate_of_le fits, truncate_of_le (by omega)]
    · rw [Nat.min_eq_right smaller]

/-- Nothing that follows the character is remembered, and it leaves nothing to be remembered. -/
def Settled (c : Char) : Prop :=
  widthStep c {} = (↑(charWidth c), {})

theorem settled_ellipsis : Settled '…' := by
  unfold Settled
  decide +kernel

theorem scanWidth_of_settled (settled : ∀ c ∈ chars, Settled c) :
    scanWidth chars = ((chars.map charWidth).sum, {}) := by
  induction chars with
  | nil => rfl
  | cons c rest ih =>
      obtain ⟨first, others⟩ := List.forall_mem_cons.mp settled
      have step : widthStep c {} = (↑(charWidth c), {}) := first
      have sum : (((rest.map charWidth).sum : Int) + charWidth c).toNat =
          charWidth c + (rest.map charWidth).sum := by omega
      rw [scanWidth, ih others]
      dsimp only
      rw [step, List.map_cons, List.sum_cons]
      exact congrArg (·, _) sum

theorem additive_of_settled (settled : ∀ c ∈ chars, Settled c) : Additive chars := by
  intro start before
  have kept : ∀ c ∈ start, Settled c := fun c member => settled c (before.subset member)
  have closed : ∀ c ∈ start ++ ['…'], Settled c :=
    List.forall_mem_append.mpr ⟨kept, List.forall_mem_singleton.mpr settled_ellipsis⟩
  rw [width, width, scanWidth_of_settled kept, scanWidth_of_settled closed, List.map_append,
    List.sum_append, List.map_singleton, List.sum_singleton, charWidth_ellipsis]
  exact ⟨rfl, rfl⟩

theorem settled_of_printable (printable : 0x20 ≤ c.toNat ∧ c.toNat < 0x7F) : Settled c := by
  have all : ∀ code < 0x7F, 0x20 ≤ code →
      widthStep (Char.ofNat code) {} = (↑(charWidth (Char.ofNat code)), {}) := by
    decide +kernel
  have own := all c.toNat printable.2 printable.1
  rwa [Char.ofNat_toNat] at own

/-- The wide characters of East Asian writing: all but the symbols and the pictographs. -/
def eastAsianWriting : CodeRanges :=
  eastAsianWide.filter fun range =>
    range.2 < 0x231A || (0x2B55 < range.1 && range.2 < 0x1F000) || 0x1FFFF < range.1

/-- No range of the second set has anything of one of the first. -/
def CodeRanges.Apart (ranges others : CodeRanges) : Prop :=
  ∀ range ∈ ranges, ∀ other ∈ others, other.2 < range.1 ∨ range.2 < other.1

instance (ranges others : CodeRanges) : Decidable (ranges.Apart others) :=
  inferInstanceAs (Decidable (∀ range ∈ ranges, ∀ other ∈ others, _))

theorem CodeRanges.Apart.holds_eq_false {ranges others : CodeRanges} (apart : ranges.Apart others)
    (member : ranges.holds c = true) : others.holds c = false := by
  obtain ⟨range, among, above, below⟩ := holds_iff.mp member
  exact CodeRanges.holds_eq_false (apart range among) above below

theorem stretch_of_eastAsian (written : eastAsianWriting.holds c = true) :
    0x1100 ≤ c.toNat ∧ c.toNat ≤ 0x115F ∨ 0x2E80 ≤ c.toNat ∧ c.toNat ≤ 0xA4C6 ∨
      0xA960 ≤ c.toNat ∧ c.toNat ≤ 0xFAFF ∨ 0xFE10 ≤ c.toNat ∧ c.toNat ≤ 0xFFE6 ∨
      0x16FE0 ≤ c.toNat ∧ c.toNat ≤ 0x1D376 ∨ 0x20000 ≤ c.toNat := by
  have stretches : ∀ range ∈ eastAsianWriting,
      0x1100 ≤ range.1 ∧ range.2 ≤ 0x115F ∨ 0x2E80 ≤ range.1 ∧ range.2 ≤ 0xA4C6 ∨
        0xA960 ≤ range.1 ∧ range.2 ≤ 0xFAFF ∨ 0xFE10 ≤ range.1 ∧ range.2 ≤ 0xFFE6 ∨
        0x16FE0 ≤ range.1 ∧ range.2 ≤ 0x1D376 ∨ 0x20000 ≤ range.1 := by
    decide +kernel
  obtain ⟨range, among, above, below⟩ := CodeRanges.holds_iff.mp written
  have stretch := stretches range among
  omega

theorem settled_of_eastAsian (written : eastAsianWriting.holds c = true) : Settled c := by
  have text : eastAsianWriting.Apart emojiPresentation := by decide +kernel
  have stretch := stretch_of_eastAsian written
  have selectors : (c.toNat == 0xFE0F) = false ∧ (c.toNat == 0xFE0E) = false := by
    simp only [beq_eq_false_iff_ne, ne_eq]
    omega
  have single : alone c = (↑(printedWidth c), .plain) :=
    alone_of_eastAsian (by omega) (text.holds_eq_false written)
  have unjoined : joined c .plain = none := rfl
  unfold Settled widthStep
  rw [if_neg (by simp), if_neg (by simp), if_neg (by omega), charWidth_of_beyond (by omega)]
  simp [beyondLatin, Ahead.unselected, selectors, Follow.transparent, Follow.inLigature, unjoined,
    single]

/-- Cutting a text twice is cutting it once, to the smaller limit, and cutting it again to the same
limit leaves it as it is.  All that is asked of the text is that its columns are those of its
characters, as they are where it is of printable ASCII characters and wide ones of East Asian
writing. -/
theorem truncations_join (text : String) :
    (Additive text.toList →
      (∀ first second, truncate (truncate text first) second = truncate text (min first second)) ∧
        ∀ limit, truncate (truncate text limit) limit = truncate text limit) ∧
    ((∀ c ∈ text.toList, 0x20 ≤ c.toNat ∧ c.toNat < 0x7F ∨ eastAsianWriting.holds c = true) →
      Additive text.toList) := by
  refine ⟨fun additive => ⟨truncate_truncate additive, fun limit => ?_⟩, fun letters => ?_⟩
  · rw [truncate_truncate additive, Nat.min_self]
  · refine additive_of_settled fun c member => ?_
    rcases letters c member with printable | letter
    · exact settled_of_printable printable
    · exact settled_of_eastAsian letter

/-- The first cut leaves a column unused, since half a letter is not kept.  It shows in the second
cut no more than it would have without the first. -/
theorem truncations_of_wide_letters :
    let text := "03b投票8"
    (∀ c ∈ text.toList, 0x20 ≤ c.toNat ∧ c.toNat < 0x7F ∨ eastAsianWriting.holds c = true) ∧
      Additive text.toList ∧ truncate text 7 = "03b投…" ∧
      truncate (truncate text 7) 5 = truncate text 5 ∧ truncate text 5 = "03b…" ∧
      truncate (truncate text 7) 0 = truncate text 0 ∧
      truncate (truncate text 7) 7 = truncate text 7 := by
  intro text
  obtain ⟨joins, additive⟩ := truncations_join text
  have letters : ∀ c ∈ text.toList,
      0x20 ≤ c.toNat ∧ c.toNat < 0x7F ∨ eastAsianWriting.holds c = true := by
    have spelled : text.toList = ['0', '3', 'b', '投', '票', '8'] := by decide +kernel
    rw [spelled]
    -- Member by member: it is not to be decided over all characters that there are.
    simp only [List.mem_cons, List.not_mem_nil, or_false, forall_eq_or_imp, forall_eq]
    decide
  obtain ⟨twice, again⟩ := joins (additive letters)
  exact ⟨letters, additive letters, by decide +kernel, twice 7 5, by decide +kernel, twice 7 0,
    again 7⟩

end WalletScreens.Text

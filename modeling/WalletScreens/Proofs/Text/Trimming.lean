import Mathlib.Data.List.DropRight
import WalletScreens.Text.Blank

/-!
Lines cut at blanks.

To trim a text is to leave what stands between the blanks at its ends.  A trimmed text is one word,
or a word that a gap of blanks divides from a trimmed rest.
-/

namespace WalletScreens.Text

variable {before after chars word gap rest : List Char}

def Blank (chars : List Char) : Prop :=
  ∀ c ∈ chars, isBlank c = true

instance (chars : List Char) : Decidable (Blank chars) :=
  decidable_of_iff (chars.all isBlank = true) List.all_eq_true

def Unbroken (chars : List Char) : Prop :=
  ∀ c ∈ chars, isBlank c = false

/-- No blank stands at either end. -/
structure Trimmed (chars : List Char) : Prop where
  start : ∀ c ∈ chars.head?, isBlank c = false
  finish : ∀ c ∈ chars.getLast?, isBlank c = false

theorem Unbroken.trimmed (unbroken : Unbroken chars) : Trimmed chars :=
  ⟨fun c first => unbroken c (List.mem_of_mem_head? first),
    fun c last => unbroken c (List.mem_of_mem_getLast? last)⟩

/-- Between the space and the first blank beyond ASCII there is none. -/
theorem isBlank_eq_false {c : Char} (low : 0x20 < c.toNat) (high : c.toNat < 0x85) :
    isBlank c = false := by
  rw [← Bool.not_eq_true]
  simp only [isBlank, Bool.or_eq_true, Bool.and_eq_true, decide_eq_true_eq, beq_iff_eq]
  omega

theorem trimEnd_eq_rdropWhile (chars : List Char) : trimEnd chars = chars.rdropWhile isBlank := rfl

theorem trimStart_of_blank (blank : Blank chars) : trimStart chars = [] :=
  List.dropWhile_eq_nil_iff.mpr blank

theorem trimEnd_append (blank : Blank after) (chars : List Char) :
    trimEnd (chars ++ after) = trimEnd chars := by
  rw [trimEnd, trimEnd, List.reverse_append, List.dropWhile_append_of_pos]
  exact fun c member => blank c (List.mem_reverse.mp member)

/-- Blanks at the ends of a text make no difference to what is left of it. -/
theorem trim_append (leading : Blank before) (trailing : Blank after) (chars : List Char) :
    trim (before ++ chars ++ after) = trim chars := by
  rw [trim, trim, List.append_assoc, trimStart, List.dropWhile_append_of_pos leading,
    List.dropWhile_append]
  split
  · rename_i empty
    have nothing : trimStart chars = [] := List.isEmpty_iff.mp empty
    rw [show after.dropWhile isBlank = [] from trimStart_of_blank trailing, nothing]
  · exact trimEnd_append trailing _

theorem trim_of_trimmed (trimmed : Trimmed chars) : trim chars = chars := by
  have start : trimStart chars = chars := by
    cases chars with
    | nil => rfl
    | cons c rest =>
        rw [trimStart, List.dropWhile_cons_of_neg]
        simp [trimmed.start c rfl]
  rw [trim, start, trimEnd_eq_rdropWhile, List.rdropWhile_eq_self_iff]
  intro nonempty
  simp [trimmed.finish _ (List.getLast_mem_getLast? nonempty)]

/-- What is trimmed away is blank, and what is left has no blank at its ends. -/
theorem exists_trim (chars : List Char) :
    ∃ before after, Blank before ∧ Blank after ∧ chars = before ++ trim chars ++ after ∧
      Trimmed (trim chars) := by
  have cut : trim chars ++ (trimStart chars).rtakeWhile isBlank = trimStart chars :=
    List.rdropWhile_append_rtakeWhile
  refine ⟨chars.takeWhile isBlank, (trimStart chars).rtakeWhile isBlank, ?_, ?_, ?_, ?_, ?_⟩
  · exact fun c => List.mem_takeWhile_imp
  · exact fun c => List.mem_rtakeWhile_imp
  · rw [List.append_assoc, cut]
    exact List.takeWhile_append_dropWhile.symm
  · intro c first
    have start := List.head?_dropWhile_not isBlank chars
    rw [← trimStart, ← cut, List.head?_append, Option.mem_def.mp first] at start
    exact start
  · intro c last
    obtain ⟨nonempty, rfl⟩ := List.mem_getLast?_eq_getLast last
    exact (Bool.not_eq_true _).mp (List.rdropWhile_last_not isBlank (trimStart chars) nonempty)

theorem splitBlank_of_unbroken (unbroken : Unbroken chars) : splitBlank chars = (chars, none) := by
  induction chars with
  | nil => rfl
  | cons c rest ih =>
      rw [splitBlank, unbroken c List.mem_cons_self, if_neg Bool.false_ne_true,
        ih fun d member => unbroken d (List.mem_cons_of_mem _ member)]

theorem splitBlank_append {c : Char} (unbroken : Unbroken word) (blank : isBlank c = true)
    (rest : List Char) : splitBlank (word ++ c :: rest) = (word, some rest) := by
  induction word with
  | nil => rw [List.nil_append, splitBlank, if_pos blank]
  | cons d word ih =>
      rw [List.cons_append, splitBlank, unbroken d List.mem_cons_self, if_neg Bool.false_ne_true,
        ih fun e member => unbroken e (List.mem_cons_of_mem _ member)]

/-- The first word of a text and the rest without the gap between them. -/
def cut (chars : List Char) : List Char × List Char :=
  ((splitBlank chars).1, trim ((splitBlank chars).2.getD []))

theorem cut_of_unbroken (unbroken : Unbroken chars) : cut chars = (chars, []) := by
  rw [cut, splitBlank_of_unbroken unbroken]
  rfl

structure Gap (chars : List Char) : Prop where
  blank : Blank chars
  ne_nil : chars ≠ []

theorem cut_append (unbroken : Unbroken word) (apart : Gap gap) (trimmed : Trimmed rest) :
    cut (word ++ gap ++ rest) = (word, rest) := by
  obtain ⟨blank, nonempty⟩ := apart
  cases gap with
  | nil => contradiction
  | cons c gap =>
      have more : Blank gap := fun d member => blank d (List.mem_cons_of_mem _ member)
      have inner : trim (gap ++ rest ++ []) = trim rest := trim_append more (List.forall_mem_nil _) rest
      rw [List.append_nil, trim_of_trimmed trimmed] at inner
      rw [cut, List.append_assoc, List.cons_append,
        splitBlank_append unbroken (blank c List.mem_cons_self), Option.getD_some, inner]

theorem trimmed_append (first : Trimmed word) (nonempty : word ≠ []) (last : Trimmed rest)
    (more : rest ≠ []) (gap : List Char) : Trimmed (word ++ gap ++ rest) where
  start c found := by
    rw [List.append_assoc, List.head?_append_of_ne_nil _ nonempty] at found
    exact first.start c found
  finish c found := by
    rw [List.getLast?_append_of_ne_nil _ more] at found
    exact last.finish c found

/-- A trimmed text is one word, or a word and more, since a gap can neither begin nor end it. -/
theorem Trimmed.unbroken_or_gap (trimmed : Trimmed chars) :
    Unbroken chars ∨ ∃ word gap rest, chars = word ++ gap ++ rest ∧ Unbroken word ∧ word ≠ [] ∧
      Gap gap ∧ Trimmed rest ∧ rest ≠ [] := by
  have first : chars.takeWhile (!isBlank ·) ++ chars.dropWhile (!isBlank ·) = chars :=
    List.takeWhile_append_dropWhile
  have word : Unbroken (chars.takeWhile (!isBlank ·)) := fun c member => by
    simpa using List.mem_takeWhile_imp member
  have stop := List.head?_dropWhile_not (!isBlank ·) chars
  cases more : chars.dropWhile (!isBlank ·) with
  | nil =>
      rw [more, List.append_nil] at first
      exact .inl (first ▸ word)
  | cons c tail =>
      have gap : Gap (c :: tail.takeWhile isBlank) := by
        refine ⟨List.forall_mem_cons.mpr ⟨?_, fun d => List.mem_takeWhile_imp⟩,
          List.cons_ne_nil _ _⟩
        simpa [more] using stop
      have whole : chars = chars.takeWhile (!isBlank ·) ++ (c :: tail.takeWhile isBlank) ++
          tail.dropWhile isBlank := by
        rw [List.append_assoc, List.cons_append, List.takeWhile_append_dropWhile, ← more, first]
      have last := trimmed.finish
      rw [whole, List.getLast?_append] at last
      refine .inr ⟨_, _, _, whole, word, ?_, gap, ⟨?_, ?_⟩, ?_⟩
      · intro nothing
        rw [nothing] at whole
        have unblank := trimmed.start c (by rw [whole]; rfl)
        exact Bool.false_ne_true (unblank.symm.trans (gap.blank c List.mem_cons_self))
      · intro d head
        have start := List.head?_dropWhile_not isBlank tail
        rw [Option.mem_def.mp head] at start
        exact start
      · intro d found
        exact last d (by rw [Option.mem_def.mp found]; rfl)
      · intro nothing
        obtain ⟨d, found⟩ := Option.isSome_iff_exists.mp
          (List.getLast?_isSome.mpr gap.ne_nil)
        have blank := gap.blank d (List.mem_of_mem_getLast? found)
        rw [nothing, List.getLast?_append, found] at last
        exact Bool.false_ne_true ((last d rfl).symm.trans blank)

end WalletScreens.Text

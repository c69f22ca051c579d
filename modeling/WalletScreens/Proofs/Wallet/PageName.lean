import Mathlib.Data.List.Forall2
import WalletScreens.Proofs.Text.Trimming
import WalletScreens.Wallet.Page

/-!
The words for pages, whose letters may be small or capital.
-/

namespace WalletScreens.Wallet

/-- A character is a letter of a name, as it stands there or as its capital. -/
def SameLetter (c letter : Char) : Prop :=
  c = letter ∨ c = letter.toUpper

theorem toNat_toLower (c : Char) :
    c.toLower.toNat = if 65 ≤ c.toNat ∧ c.toNat ≤ 90 then c.toNat + 32 else c.toNat := by
  have capital : c.val ≥ 'A'.val ∧ c.val ≤ 'Z'.val ↔ 65 ≤ c.toNat ∧ c.toNat ≤ 90 := by
    simp [UInt32.le_iff_toNat_le]
  unfold Char.toLower
  split
  · rename_i inside
    have range := capital.mp inside
    rw [if_pos range]
    have shifted : (c.val + 32).toNat = c.toNat + 32 := by
      have step : (32 : UInt32).toNat = 32 := rfl
      rw [UInt32.toNat_add, Char.toNat_val, step]
      omega
    exact shifted
  · rename_i outside
    rw [if_neg (capital.not.mp outside)]

theorem toNat_toUpper {c : Char} (small : c.isLower = true) :
    97 ≤ c.toNat ∧ c.toNat ≤ 122 ∧ c.toUpper.toNat = c.toNat - 32 := by
  have inside : 'a'.val ≤ c.val ∧ c.val ≤ 'z'.val := by
    unfold Char.isLower at small
    simpa using small
  obtain ⟨low, high⟩ : 97 ≤ c.toNat ∧ c.toNat ≤ 122 := by
    simpa [UInt32.le_iff_toNat_le] using inside
  refine ⟨low, high, ?_⟩
  have shifted : (c.val + 4294967264).toNat = c.toNat - 32 := by
    have step : (4294967264 : UInt32).toNat = 4294967264 := rfl
    rw [UInt32.toNat_add, Char.toNat_val, step]
    omega
  unfold Char.toUpper
  rw [dif_pos inside]
  exact shifted

theorem toLower_eq_iff {letter : Char} (small : letter.isLower = true) (c : Char) :
    c.toLower = letter ↔ SameLetter c letter := by
  obtain ⟨low, high, upper⟩ := toNat_toUpper small
  rw [SameLetter, ← Char.toNat_inj, ← Char.toNat_inj, ← Char.toNat_inj, upper, toNat_toLower]
  split <;> omega

/-- A letter is no blank, in either case. -/
theorem SameLetter.isBlank {c letter : Char} (same : SameLetter c letter)
    (small : letter.isLower = true) : Text.isBlank c = false := by
  obtain ⟨low, high, upper⟩ := toNat_toUpper small
  rcases same with rfl | rfl
  · exact Text.isBlank_eq_false (by omega) (by omega)
  · exact Text.isBlank_eq_false (by omega) (by omega)

theorem unbroken_of_sameLetters {word name : List Char}
    (same : List.Forall₂ SameLetter word name) (small : ∀ letter ∈ name, letter.isLower = true) :
    Text.Unbroken word := by
  induction same with
  | nil => exact List.forall_mem_nil _
  | cons first _ ih =>
      rw [List.forall_mem_cons] at small
      exact List.forall_mem_cons.mpr ⟨first.isBlank small.1, ih small.2⟩

theorem map_toLower_eq_iff {name : List Char} (small : ∀ letter ∈ name, letter.isLower = true)
    (word : List Char) :
    word.map Char.toLower = name ↔ List.Forall₂ SameLetter word name := by
  induction name generalizing word with
  | nil => rw [List.map_eq_nil_iff, List.forall₂_nil_right_iff]
  | cons letter rest ih =>
      cases word with
      | nil => rw [List.map_nil, List.forall₂_nil_left_iff, eq_comm]
      | cons c word =>
          rw [List.map_cons, List.cons_eq_cons, List.forall₂_cons,
            toLower_eq_iff (small letter List.mem_cons_self),
            ih fun other member => small other (List.mem_cons_of_mem _ member)]

namespace Page

def words : Page → List String
  | .send => ["send"]
  | .receive => ["receive"]
  | .voting => ["voting", "votes"]

/-- A text is one of the words for a page, whatever the case of its letters. -/
def Named (page : Page) (word : List Char) : Prop :=
  ∃ name ∈ page.words, List.Forall₂ SameLetter word name.toList

theorem name_mem_words (page : Page) : page.name ∈ page.words := by
  cases page <;> decide

theorem isLower_of_mem_words (page : Page) {name : String} (member : name ∈ page.words) :
    ∀ letter ∈ name.toList, letter.isLower = true := by
  have lower : ∀ name ∈ page.words, name.toList.all Char.isLower = true := by
    cases page <;> decide
  exact List.all_eq_true.mp (lower name member)

theorem Named.unbroken {page : Page} {word : List Char} (named : page.Named word) :
    Text.Unbroken word := by
  obtain ⟨name, member, same⟩ := named
  exact unbroken_of_sameLetters same (page.isLower_of_mem_words member)

theorem named_iff (page : Page) (word : List Char) :
    page.Named word ↔ String.ofList (word.map Char.toLower) ∈ page.words := by
  have spelled (name : String) (member : name ∈ page.words) :
      List.Forall₂ SameLetter word name.toList ↔
        String.ofList (word.map Char.toLower) = name := by
    rw [← map_toLower_eq_iff (page.isLower_of_mem_words member), ← String.toList_inj,
      String.toList_ofList]
  constructor
  · rintro ⟨name, member, same⟩
    rwa [(spelled name member).mp same]
  · intro member
    exact ⟨_, member, (spelled _ member).mpr rfl⟩

theorem ofWord?_eq_some_iff (word : List Char) (page : Page) :
    ofWord? (String.ofList word) = some page ↔ page.Named word := by
  rw [named_iff, ofWord?, String.toList_ofList]
  cases page <;> grind [words]

end Page

end WalletScreens.Wallet

/-!
Sets of code points given as inclusive ranges.
-/

namespace WalletScreens.Text

/-- Inclusive ranges of code points in ascending order. -/
abbrev CodeRanges := List (Nat × Nat)

def CodeRanges.holds (ranges : CodeRanges) (c : Char) : Bool :=
  ranges.any fun range => range.1 ≤ c.toNat && c.toNat ≤ range.2

theorem CodeRanges.holds_iff {ranges : CodeRanges} {c : Char} :
    ranges.holds c = true ↔ ∃ range ∈ ranges, range.1 ≤ c.toNat ∧ c.toNat ≤ range.2 := by
  simp [holds]

/-- Ranges that keep clear of a stretch of code points hold none of it. -/
theorem CodeRanges.holds_eq_false {ranges : CodeRanges} {low high : Nat}
    (clear : ∀ range ∈ ranges, range.2 < low ∨ high < range.1) {c : Char}
    (above : low ≤ c.toNat) (below : c.toNat ≤ high) : ranges.holds c = false := by
  rw [← Bool.not_eq_true, holds_iff]
  rintro ⟨range, member, first, last⟩
  have apart := clear range member
  omega

end WalletScreens.Text

import WalletScreens.Proofs.Text.Escape

/-!
The lines of a text.

Lines are what stands between line breaks, so a text has one more line than it has breaks, and the
lines of texts that are joined by a break are those of the one and then those of the other.
-/

namespace WalletScreens.Text

def lines (text : String) : List String :=
  (text.toList.splitOn '\n').map String.ofList

def breaks (text : String) : Nat :=
  text.toList.count '\n'

@[simp] theorem breaks_append (text more : String) :
    breaks (text ++ more) = breaks text + breaks more := by
  rw [breaks, String.toList_append, List.count_append]
  rfl

theorem breaks_eq_zero {text : String} : breaks text = 0 ↔ '\n' ∉ text.toList :=
  List.count_eq_zero

theorem lines_append (text more : String) :
    lines (text ++ "\n" ++ more) = lines text ++ lines more := by
  have joined : (text ++ "\n" ++ more).toList = text.toList ++ '\n' :: more.toList := by
    rw [String.toList_append, String.toList_append, List.append_assoc]
    rfl
  rw [lines, joined, List.splitOn_append_cons_self, List.map_append]
  rfl

theorem lines_of_unbroken {text : String} (unbroken : breaks text = 0) : lines text = [text] := by
  rw [lines, List.splitOn_eq_singleton (breaks_eq_zero.mp unbroken), List.map_singleton,
    String.ofList_toList]

theorem length_splitOn (c : Char) (chars : List Char) :
    (chars.splitOn c).length = chars.count c + 1 := by
  induction chars with
  | nil => rfl
  | cons other rest ih =>
      rw [List.splitOn_cons_eq_if_modifyHead, List.count_cons]
      split
      · rw [List.length_cons, ih]
      · rw [List.length_modifyHead, ih, Nat.add_zero]

theorem length_lines (text : String) : (lines text).length = breaks text + 1 := by
  rw [lines, List.length_map, length_splitOn]
  rfl

theorem breaks_number (value : Nat) : breaks (toString value) = 0 := by
  rw [breaks_eq_zero]
  intro member
  exact absurd (isDigit_of_mem_number member) (by decide)

theorem breaks_replicate {c : Char} (ordinary : c ≠ '\n') (count : Nat) :
    breaks (String.ofList (List.replicate count c)) = 0 := by
  rw [breaks_eq_zero, String.toList_ofList]
  exact fun member => ordinary (List.eq_of_mem_replicate member).symm

theorem breaks_padRight (text : String) (columns : Nat) :
    breaks (padRight text columns) = breaks text := by
  rw [padRight, breaks_append, spaces, breaks_replicate (by decide), Nat.add_zero]

theorem breaks_truncate {text : String} (unbroken : breaks text = 0) (limit : Nat) :
    breaks (truncate text limit) = 0 := by
  unfold truncate
  split
  · exact unbroken
  · rw [breaks_eq_zero, String.toList_ofList, List.mem_append]
    rintro (kept | ellipsis)
    · exact breaks_eq_zero.mp unbroken (mem_of_mem_fitting kept)
    · exact absurd ellipsis (by decide)

end WalletScreens.Text

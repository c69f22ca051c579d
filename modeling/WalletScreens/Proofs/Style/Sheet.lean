import Mathlib.Data.List.Nodup
import WalletScreens.Style.Sheet

/-!
Sheets that are made by adding names one after the other, and the names in them that lead to a
brush at once or through one other name.
-/

namespace WalletScreens.Style.Sheet

variable {sheet : Sheet} {name target : String} {entry : Entry} {brush : Brush}

theorem put_of_notMem {entries : List (String × Entry)} (fresh : name ∉ entries.map Prod.fst) :
    put name entry entries = entries ++ [(name, entry)] := by
  induction entries with
  | nil => rfl
  | cons first rest ih =>
      rw [List.map_cons, List.mem_cons, not_or] at fresh
      rw [put, if_neg (Ne.symm fresh.1), ih fresh.2, List.cons_append]

/-- Names that are all different stay in the order in which they are added. -/
theorem entries_foldl_add (styles : List (String × Entry)) (sheet : Sheet)
    (distinct : (sheet.names ++ styles.map Prod.fst).Nodup) :
    (styles.foldl (fun sheet style => sheet.add style.1 style.2) sheet).entries =
      sheet.entries ++ styles := by
  induction styles generalizing sheet with
  | nil => rw [List.foldl_nil, List.append_nil]
  | cons style rest ih =>
      rw [List.map_cons, List.append_cons] at distinct
      have fresh : style.1 ∉ sheet.names := fun member =>
        List.disjoint_of_nodup_append (List.nodup_append.mp distinct).1 member
          List.mem_cons_self
      have added : (sheet.add style.1 style.2).entries = sheet.entries ++ [style] :=
        put_of_notMem fresh
      rw [List.foldl_cons, ih, added, List.append_assoc, List.singleton_append]
      rwa [names, added, List.map_append]

theorem lookup?_of_mem (distinct : sheet.names.Nodup) (member : (name, entry) ∈ sheet.entries) :
    sheet.lookup? name = some entry := by
  obtain ⟨before, after, split⟩ := List.append_of_mem member
  refine List.lookup_eq_some_iff.mpr ⟨before, after, split, fun other earlier => ?_⟩
  rw [names, split, List.map_append] at distinct
  have apart := List.disjoint_of_nodup_append distinct (List.mem_map_of_mem earlier)
  rw [bne_iff_ne]
  rintro rfl
  exact apart List.mem_cons_self

theorem size_pos (found : sheet.lookup? name = some entry) : 0 < sheet.size := by
  cases entries : sheet.entries with
  | nil => simp [lookup?, entries] at found
  | cons first rest => simp [size, entries]

theorem faultFrom_concrete (found : sheet.lookup? name = some (.concrete brush)) :
    sheet.faultFrom name = none := by
  simp [faultFrom, walk, found]

theorem faultFrom_sameAs (found : sheet.lookup? name = some (.sameAs target))
    (other : target ≠ name) (leads : sheet.lookup? target = some (.concrete brush)) :
    sheet.faultFrom name = none := by
  obtain ⟨more, size⟩ := Nat.exists_eq_succ_of_ne_zero (Nat.ne_of_gt (size_pos found))
  simp [faultFrom, size, walk, found, other, has, leads]

theorem validate_eq_ok_iff (sheet : Sheet) :
    sheet.validate = .ok () ↔ ∀ name ∈ sheet.names, sheet.faultFrom name = none := by
  have searched : sheet.sortedNames.findSome? sheet.faultFrom = none ↔
      ∀ name ∈ sheet.names, sheet.faultFrom name = none := by
    rw [List.findSome?_eq_none_iff]
    simp [sortedNames]
  rw [← searched, validate]
  cases sheet.sortedNames.findSome? sheet.faultFrom <;> simp

end WalletScreens.Style.Sheet

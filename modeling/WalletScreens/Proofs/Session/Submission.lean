import WalletScreens.Proofs.Json.TextRecord
import WalletScreens.Proofs.Wallet.Forms
import WalletScreens.Session.Handle

/-!
Submissions.

A reader of the output takes it apart at the newlines, so a submission must be one line whatever was
typed, and the line must say no more and no less than what the form of the active page keeps.
-/

namespace WalletScreens.Text

/-- The bytes of a text in UTF-8. -/
def bytes (text : String) : List UInt8 :=
  text.toUTF8.data.toList

theorem bytes_eq_flatMap (text : String) :
    bytes text = text.toList.flatMap String.utf8EncodeChar := by
  rw [bytes, String.toUTF8_eq_toByteArray, ← String.utf8Encode_toList, List.utf8Encode,
    List.toList_data_toByteArray]

theorem bytes_append (first second : String) :
    bytes (first ++ second) = bytes first ++ bytes second := by
  simp only [bytes_eq_flatMap, String.toList_append, List.flatMap_append]

theorem bytes_newline : bytes "\n" = [10] := by decide

/-- The bytes of a character beyond ASCII are all too great for a newline. -/
theorem newline_notMem_utf8EncodeChar {c : Char} (other : c ≠ '\n') :
    (10 : UInt8) ∉ String.utf8EncodeChar c := by
  have code : c.val.toNat ≠ 10 := fun same => other (Char.toNat_inj.mp same)
  have apart (value : Nat) (differs : value % 256 ≠ 10) : (10 : UInt8) ≠ UInt8.ofNat value := by
    intro same
    rw [← UInt8.toNat_inj, UInt8.toNat_ofNat'] at same
    exact differs same.symm
  unfold String.utf8EncodeChar
  dsimp only
  split
  · exact List.not_mem_cons_of_ne_of_not_mem (apart _ (by omega)) List.not_mem_nil
  · split
    · simp only [List.mem_cons, List.not_mem_nil, or_false, not_or]
      exact ⟨apart _ (by omega), apart _ (by omega)⟩
    · split
      · simp only [List.mem_cons, List.not_mem_nil, or_false, not_or]
        exact ⟨apart _ (by omega), apart _ (by omega), apart _ (by omega)⟩
      · simp only [List.mem_cons, List.not_mem_nil, or_false, not_or]
        exact ⟨apart _ (by omega), apart _ (by omega), apart _ (by omega), apart _ (by omega)⟩

theorem newline_notMem_bytes {text : String} (line : '\n' ∉ text.toList) :
    (10 : UInt8) ∉ bytes text := by
  rw [bytes_eq_flatMap, List.mem_flatMap]
  rintro ⟨c, member, newline⟩
  exact newline_notMem_utf8EncodeChar (fun same => line (same ▸ member)) newline

end WalletScreens.Text

namespace WalletScreens.Session

open Json Scope Wallet

theorem submission_eq (dashboard : Dashboard) :
    submission dashboard = (Value.record (Value.ofTexts dashboard.submit)).print ++ "\n" := rfl

/-- The fields of a submission are in the order of their names. -/
theorem sorted_submit (dashboard : Dashboard) :
    dashboard.submit.Pairwise fun first second => first.1 < second.1 := by
  have ordered : "amount" < "receiver" := by decide
  rw [Dashboard.submit]
  cases dashboard.page with
  | send => exact List.pairwise_pair.mpr ordered
  | receive => exact List.pairwise_singleton _ _
  | voting => exact List.pairwise_singleton _ _

/-- Whatever was typed, a submission is a line of its own, with no newline among its bytes but the
one at its end.  Read back, it is a record of the fields of the active page, each of them once, with
the texts that they keep.  The dashboard stays as it is, and so does the theme. -/
theorem submission_is_line_that_reads_back (dashboard : Dashboard) (stage : Stage) :
    let handled := Event.submit.handle dashboard stage
    ∃ line fields, handled.written = line ++ "\n" ∧ '\n' ∉ line.toList ∧
      Text.bytes handled.written = Text.bytes line ++ [10] ∧ 10 ∉ Text.bytes line ∧
      Value.parse line = .ok (.record fields) ∧
      Value.parse handled.written = .ok (.record fields) ∧
      (fields.map Prod.fst).Perm dashboard.page.fields ∧
      (∀ name, fields.lookup name = (dashboard.forms.get? dashboard.page name).map .text) ∧
      handled.dashboard = dashboard ∧ handled.stage = stage := by
  intro handled
  let line := (Value.record (Value.ofTexts dashboard.submit)).print
  have written : handled.written = line ++ "\n" := submission_eq dashboard
  have single : '\n' ∉ line.toList := Value.newline_notMem_print_ofTexts _
  have sorted := sorted_submit dashboard
  refine ⟨line, Value.ofTexts dashboard.submit, written, single, ?_,
    Text.newline_notMem_bytes single, ?_, ?_, ?_, ?_, rfl, rfl⟩
  · rw [written, Text.bytes_append, Text.bytes_newline]
  · have alone := Value.parse_print_ofTexts sorted "" (by simp)
    rwa [String.append_empty] at alone
  · rw [written]
    exact Value.parse_print_ofTexts sorted "\n" (by simp [isBlank])
  · rw [Value.ofTexts, List.map_map]
    exact dashboard.forms.submitted_perm_fields dashboard.page
  · intro name
    rw [Value.lookup_ofTexts]
    exact congrArg _ (dashboard.forms.lookup_submitted dashboard.page name)

end WalletScreens.Session

import WalletScreens.Proofs.Scope.Switching
import WalletScreens.Proofs.Screen.Columns

/-!
Rows and frames as they are written.

A style puts nothing but codes around a piece, unless it writes tags.  So the columns of a card are
those of its plain parts, on a terminal as well as in plain text: the amounts of transactions end in
the last column, and the frame around a message closes.
-/

namespace WalletScreens.Scope

open Screen Style Text Theme

namespace ReadsAs

variable {rendition : Rendition} {written text : String}

theorem of_plain (rendition : Rendition) (plain : Escape.Plain text.toList) :
    ReadsAs rendition text text := by
  unfold ReadsAs
  split
  · exact .of_plain plain
  · rfl

theorem measure_eq (reads : ReadsAs rendition written text) : measure written = measure text := by
  unfold ReadsAs at reads
  split at reads
  · exact reads.measure_eq
  · rw [reads]

end ReadsAs

section

variable {rendition : Rendition} (untagged : rendition.isTagged = false) (theme : Definition)
include untagged

/-- A piece in a style that every theme has reads as the text itself. -/
theorem reads_write {name text : String} (known : name ∈ baseNames ++ partNames)
    (plain : Escape.Plain text.toList) :
    ReadsAs rendition (theme.styles.write rendition name text) text := by
  rw [theme.write_eq_writeOr known rendition rendition.marked]
  unfold ReadsAs
  cases colored : rendition.isColored with
  | true =>
      obtain rfl := Rendition.eq_colored colored
      exact theme.shows_writeOr name plain
  | false =>
      rw [Sheet.writeOr_marked _ colored, Rendition.marked, untagged]
      rfl

theorem reads_top (card : TxCard) :
    ReadsAs rendition (card.top (theme.styles.write rendition)) (card.top unstyled) := by
  have icon : Escape.Plain card.kind.icon.toList := by cases card.kind <;> decide
  have direction : Escape.Plain (if card.kind.isIncoming then "From" else "To").toList := by
    split <;> decide
  exact ((reads_write untagged theme (by decide) icon).append
    (.of_plain rendition (by decide))).append (reads_write untagged theme (by decide) direction)

theorem reads_row {card : TxCard} (plain : Escape.Plain card.name.toList) :
    ReadsAs rendition (card.row (theme.styles.write rendition)) (card.row unstyled) := by
  have name := plain_padRight (plain_truncate plain card.nameWidth) card.nameWidth
  have margin :
      ReadsAs rendition (card.margin (theme.styles.write rendition)) (card.margin unstyled) :=
    ((ReadsAs.of_plain rendition (by decide)).append
      (reads_write untagged theme (by decide) name)).append (.of_plain rendition (by decide))
  exact margin.append (reads_write untagged theme TxCard.amount_name_known (plain_number _))

theorem reads_txCard {card : TxCard} (plain : Escape.Plain card.name.toList) :
    ReadsAs rendition (card.composed (theme.styles.write rendition)) (card.composed unstyled) := by
  rw [TxCard.composed_eq, TxCard.composed_eq]
  exact ((reads_top untagged theme card).append (.of_plain rendition (by decide))).append
    (reads_row untagged theme plain)

end

/-- A transaction takes two lines.  If the columns of its name are those of the characters, the
second line is as wide as the card is meant to be, and the amount takes the last columns of it.  So
amounts in cards of one width end below each other, also where a wide letter did not fit. -/
theorem row_takes_its_width (output : OutputMode) (terminal : Bool)
    (untagged : output.isDebug = false) :
    let rendition := output.rendition terminal
    ∃ renderer, Renderer.withOutput output terminal = .ok renderer ∧
      ∀ card : TxCard, Additive card.name.toList → (∀ c ∈ card.name.toList, isControl c = false) →
        (toString card.value.toNat).length + 4 ≤ card.width → card.width ≤ wordLimit →
          ∀ (stage : Stage) (scope : ScopeState), ∃ written first second margin,
            stage.renderScope renderer scope (.component (.txCard card)) =
                (.ok ⟨scope.theme, scope.revision, written⟩, stage) ∧
              lines written = [first, second] ∧
              lines (visible rendition written) =
                [visible rendition first, visible rendition second] ∧
              width (visible rendition second).toList = card.width ∧
              visible rendition second = margin ++ toString card.value.toNat ∧
              width margin.toList + (toString card.value.toNat).length = card.width := by
  intro rendition
  have bare : rendition.isTagged = false := by rw [OutputMode.isTagged_rendition, untagged]
  refine ⟨⟨output, terminal, Layout.builtIn⟩, withOutput_eq output terminal, ?_⟩
  intro card additive printed room fits stage scope
  have plain := plain_of_printed printed
  have unbroken : breaks card.name = 0 :=
    breaks_eq_zero.mpr fun broken => absurd (printed _ broken) (by decide)
  have columns : card.nameWidth + (card.amount.length + 3) = card.width ∧ 1 ≤ card.nameWidth := by
    unfold TxCard.nameWidth TxCard.amount
    omega
  have cut : measure (truncate card.name card.nameWidth) ≤ card.nameWidth := by
    rw [measure_of_plain (plain_truncate plain _)]
    exact width_truncate_le_of_additive additive columns.2
  have margin : width (card.margin unstyled).toList + card.amount.length = card.width := by
    rw [← measure_of_plain (TxCard.plain_margin plain), card.measure_margin, Nat.max_eq_left cut]
    omega
  have row : width (card.row unstyled).toList = card.width := by
    rw [← measure_of_plain (TxCard.plain_row plain), card.measure_row,
      measure_of_plain (TxCard.plain_margin plain), margin]
  have top := reads_top bare scope.theme card
  have second := reads_row bare scope.theme plain
  refine ⟨_, card.top (scope.theme.styles.write rendition),
    card.row (scope.theme.styles.write rendition), card.margin unstyled, renderScope_written output terminal stage scope fits,
    TxCard.lines_composed (keepsBreaks_write _ _) unbroken, ?_, ?_, ?_, margin⟩
  · rw [top.visible_eq, second.visible_eq]
    exact (congrArg lines (reads_txCard bare scope.theme plain).visible_eq).trans
      (TxCard.lines_composed keepsBreaks_unstyled unbroken)
  · rw [second.visible_eq, row]
  · rw [second.visible_eq]
    rfl

/-- Three of five wide letters are kept, with an ellipsis and a space in place of the others. -/
theorem row_of_wide_name :
    let card : TxCard := { kind := .voteOut, name := "投票投票投", value := 1234567, width := 18 }
    Additive card.name.toList ∧ (∀ c ∈ card.name.toList, isControl c = false) ∧
      (toString card.value.toNat).length + 4 ≤ card.width ∧ card.width ≤ wordLimit ∧
      OutputMode.term.isDebug = false ∧
      ∃ renderer written first second margin, Renderer.withOutput .term false = .ok renderer ∧
        Stage.renderScope {} renderer ⟨.light, 0⟩ (.component (.txCard card)) =
          (.ok ⟨Catalog.light, 0, written⟩, {}) ∧
        lines written = [first, second] ∧ width (visible .colored second).toList = 18 ∧
        visible .colored second = margin ++ "1234567" ∧ width margin.toList = 11 := by
  intro card
  have letters : ∀ c ∈ card.name.toList, eastAsianWriting.holds c = true ∧ isControl c = false := by
    have spelled : card.name.toList = ['投', '票', '投', '票', '投'] := by decide +kernel
    rw [spelled]
    -- Member by member: it is not to be decided over all characters that there are.
    simp only [List.mem_cons, List.not_mem_nil, or_false, forall_eq_or_imp, forall_eq]
    decide
  have additive : Additive card.name.toList :=
    additive_of_settled fun c member => settled_of_eastAsian (letters c member).1
  have printed : ∀ c ∈ card.name.toList, isControl c = false :=
    fun c member => (letters c member).2
  have room : (toString card.value.toNat).length + 4 ≤ card.width := by decide
  have fits : card.width ≤ wordLimit := by decide
  have number : toString card.value.toNat = "1234567" := by decide
  obtain ⟨renderer, made, aligned⟩ := row_takes_its_width .term false rfl
  obtain ⟨written, first, second, margin, drawn, two, -, whole, ends, before⟩ :=
    aligned card additive printed room fits {} ⟨.light, 0⟩
  rw [number] at ends before
  exact ⟨additive, printed, room, fits, rfl, renderer, written, first, second, margin, made, drawn,
    two, whole, ends, Nat.add_right_cancel before⟩

/-- A message is framed.  If it has no line break, the frame has three lines of one width, which is
that of the message and the sides around it, and the message stands in it as it is. -/
theorem frame_closes (output : OutputMode) (terminal : Bool)
    (untagged : output.isDebug = false) :
    let rendition := output.rendition terminal
    ∃ renderer, Renderer.withOutput output terminal = .ok renderer ∧
      ∀ card : ErrorCard, '\n' ∉ card.message.toList →
        ∀ (stage : Stage) (scope : ScopeState), ∃ written top side bottom,
          stage.renderScope renderer scope (.component (.errorCard card)) =
              (.ok ⟨scope.theme, scope.revision, written⟩, stage) ∧
            lines written = [top, side ++ " " ++ card.message ++ " " ++ side, bottom] ∧
            (∀ line ∈ lines written, measure line = measure card.message + 4) ∧
            visible rendition top = "┌" ++ rule '─' (measure card.message + 2) ++ "┐" ∧
            visible rendition side = "│" ∧
            visible rendition bottom = "└" ++ rule '─' (measure card.message + 2) ++ "┘" := by
  intro rendition
  have bare : rendition.isTagged = false := by rw [OutputMode.isTagged_rendition, untagged]
  refine ⟨⟨output, terminal, Layout.builtIn⟩, withOutput_eq output terminal, ?_⟩
  intro card oneLine stage scope
  have known : "error.border" ∈ baseNames ++ partNames := by decide
  have drawnSide : Drawn "│" := by decide
  have top := reads_write bare scope.theme known card.drawn_top.plain
  have side := reads_write bare scope.theme known drawnSide.plain
  have bottom := reads_write bare scope.theme known card.drawn_bottom.plain
  have three := ErrorCard.lines_composed (keepsBreaks_write scope.theme rendition)
    (breaks_eq_zero.mpr oneLine)
  have widths : ∀ line ∈ lines (card.composed (scope.theme.styles.write rendition)),
      measure line = measure card.message + 4 := by
    rw [three]
    simp only [List.forall_mem_cons, List.not_mem_nil, false_implies, implies_true, and_true]
    refine ⟨?_, ?_, ?_⟩
    · rw [top.measure_eq, card.drawn_top.measure_eq, card.length_border ⟨rfl, rfl⟩]
    · rw [card.measure_middle, side.measure_eq, drawnSide.measure_eq, show "│".length = 1 from rfl]
      omega
    · rw [bottom.measure_eq, card.drawn_bottom.measure_eq, card.length_border ⟨rfl, rfl⟩]
  exact ⟨_, _, _, _, renderScope_written output terminal stage scope (Nat.zero_le _), three, widths,
    top.visible_eq, side.visible_eq, bottom.visible_eq⟩

/-- A message with a wide letter, a control, the signs of a template and a code that is not finished.
The space behind it does not finish the code, so its sign and the bracket are measured. -/
theorem frame_of_unfinished_code :
    let card : ErrorCard := ⟨"投\t\x7b\x7b\x1b["⟩
    OutputMode.term.isDebug = false ∧ '\n' ∉ card.message.toList ∧ measure card.message = 7 ∧
      ∃ renderer written top side bottom, Renderer.withOutput .term false = .ok renderer ∧
        Stage.renderScope {} renderer ⟨.light, 0⟩ (.component (.errorCard card)) =
          (.ok ⟨Catalog.light, 0, written⟩, {}) ∧
        lines written = [top, side ++ " " ++ card.message ++ " " ++ side, bottom] ∧
        (∀ line ∈ lines written, measure line = 11) ∧
        visible .colored top = "┌─────────┐" ∧ visible .colored side = "│" ∧
        visible .colored bottom = "└─────────┘" := by
  intro card
  have oneLine : '\n' ∉ card.message.toList := by decide
  have columns : measure card.message = 7 := by decide +kernel
  obtain ⟨renderer, made, framed⟩ := frame_closes .term false rfl
  obtain ⟨written, top, side, bottom, drawn, three, widths, above, beside, below⟩ :=
    framed card oneLine {} ⟨.light, 0⟩
  rw [columns] at widths above below
  exact ⟨rfl, oneLine, columns, renderer, written, top, side, bottom, made, drawn, three, widths,
    above, beside, below⟩

end WalletScreens.Scope

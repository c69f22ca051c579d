import WalletScreens.Proofs.Screen.Composition
import WalletScreens.Proofs.Text.Lines
import WalletScreens.Proofs.Text.Padding
import WalletScreens.Proofs.Theme.Writing

/-!
Cards line by line.

A transaction takes two lines, the second of which is a row that ends in the amount, and a framed
message takes three.  The parts of a line have spaces between them, so each part can be measured
alone, whatever a name or a message has in it.
-/

namespace WalletScreens.Screen

open Style Text Theme

/-- A style that leaves every text as it is. -/
def unstyled (_ text : String) : String :=
  text

/-- In the styles that every theme has a text keeps its line breaks and gets no others. -/
def KeepsBreaks (style : String → String → String) : Prop :=
  ∀ name ∈ baseNames ++ partNames, ∀ text, breaks (style name text) = breaks text

theorem keepsBreaks_unstyled : KeepsBreaks unstyled :=
  fun _ _ _ => rfl

theorem keepsBreaks_write (theme : Definition) (rendition : Rendition) :
    KeepsBreaks (theme.styles.write rendition) :=
  fun _ known text => theme.breaks_write known rendition text

namespace TxCard

section

variable (style : String → String → String) (card : TxCard)

def top : String :=
  style "tx.icon" card.kind.icon ++ " " ++
    style "info.label" (if card.kind.isIncoming then "From" else "To")

/-- The indent, the name in its columns and a gap: all of the row but the amount. -/
def margin : String :=
  "  " ++ style "info.content" (padRight (truncate card.name card.nameWidth) card.nameWidth) ++ " "

def row : String :=
  card.margin style ++ style (if card.kind.isIncoming then "tx.in" else "tx.out") card.amount

theorem composed_eq : card.composed style = card.top style ++ "\n" ++ card.row style := by
  have indent : "\n  " = "\n" ++ "  " := rfl
  simp only [composed, top, row, margin, indent, String.append_assoc]

end

variable {style : String → String → String} {card : TxCard}

theorem amount_name_known :
    (if card.kind.isIncoming then "tx.in" else "tx.out") ∈ baseNames ++ partNames := by
  split <;> decide

theorem lines_composed (kept : KeepsBreaks style) (unbroken : breaks card.name = 0) :
    lines (card.composed style) = [card.top style, card.row style] := by
  have icon : breaks card.kind.icon = 0 := by cases card.kind <;> decide
  have direction : breaks (if card.kind.isIncoming then "From" else "To") = 0 := by
    split <;> decide
  have top : breaks (card.top style) = 0 := by
    rw [top, breaks_append, breaks_append, kept _ (by decide), kept _ (by decide), icon, direction]
    rfl
  have row : breaks (card.row style) = 0 := by
    rw [row, margin, breaks_append, breaks_append, breaks_append, kept _ (by decide),
      kept _ amount_name_known, breaks_padRight, breaks_truncate unbroken, amount, breaks_number]
    rfl
  rw [composed_eq, lines_append, lines_of_unbroken top, lines_of_unbroken row,
    List.singleton_append]

theorem plain_margin (plain : Escape.Plain card.name.toList) :
    Escape.Plain (card.margin unstyled).toList := by
  rw [margin, unstyled, String.toList_append, String.toList_append]
  exact (Escape.Plain.append (by decide) (plain_padRight (plain_truncate plain _) _)).append
    (by decide)

theorem plain_row (plain : Escape.Plain card.name.toList) :
    Escape.Plain (card.row unstyled).toList := by
  rw [row, String.toList_append]
  exact (plain_margin plain).append (plain_number _)

variable (card)

/-- The margin ends where the amount begins, unless the name is too wide even when it is cut. -/
theorem measure_margin :
    measure (card.margin unstyled) =
      max card.nameWidth (measure (truncate card.name card.nameWidth)) + 3 := by
  rw [margin, unstyled, show " " = spaces 1 from rfl, measure_append_spaces,
    show "  " = spaces 2 from rfl, measure_spaces_append, measure_padRight]
  omega

theorem measure_row :
    measure (card.row unstyled) = measure (card.margin unstyled) + card.amount.length := by
  rw [row, margin, unstyled, unstyled, measure_append_space, amount, measure_number,
    show " " = spaces 1 from rfl, measure_append_spaces]

end TxCard

/-- The text consists of signs that frames are drawn with. -/
def Drawn (text : String) : Prop :=
  ∀ c ∈ text.toList, c ∈ ['─', '┌', '┐', '└', '┘', '│']

instance (text : String) : Decidable (Drawn text) :=
  List.decidableBAll (fun c => c ∈ ['─', '┌', '┐', '└', '┘', '│']) text.toList

namespace Drawn

variable {text more : String}

theorem append (first : Drawn text) (second : Drawn more) : Drawn (text ++ more) := by
  rw [Drawn, String.toList_append]
  exact List.forall_mem_append.mpr ⟨first, second⟩

theorem plain (drawn : Drawn text) : Escape.Plain text.toList := by
  have ordinary : Escape.Plain ['─', '┌', '┐', '└', '┘', '│'] := by decide
  exact fun c member => ordinary c (drawn c member)

theorem measure_eq (drawn : Drawn text) : measure text = text.length := by
  have single : ∀ c ∈ ['─', '┌', '┐', '└', '┘', '│'],
      widthStep c {} = (↑(charWidth c), {}) ∧ charWidth c = 1 := by
    -- Member by member: it is not to be decided over all characters that there are.
    simp only [List.forall_mem_cons, List.not_mem_nil, false_implies, implies_true, and_true]
    decide +kernel
  rw [measure_of_plain drawn.plain, ← String.length_toList]
  exact width_eq_length fun c member => single c (drawn c member)

theorem breaks_eq_zero (drawn : Drawn text) : breaks text = 0 :=
  Text.breaks_eq_zero.mpr fun member => absurd (drawn _ member) (by decide)

end Drawn

theorem drawn_rule (count : Nat) : Drawn (rule '─' count) := by
  intro c member
  rw [rule, String.toList_ofList] at member
  rw [List.eq_of_mem_replicate member]
  exact List.mem_cons_self

namespace ErrorCard

variable (style : String → String → String) (card : ErrorCard)

def border (left right : String) : String :=
  left ++ rule '─' (measure card.message + 2) ++ right

def middle : String :=
  style "error.border" "│" ++ " " ++ card.message ++ " " ++ style "error.border" "│"

theorem composed_eq :
    card.composed style =
      style "error.border" (card.border "┌" "┐") ++ "\n" ++ card.middle style ++ "\n" ++
        style "error.border" (card.border "└" "┘") := by
  simp only [composed, border, middle, String.append_assoc]

theorem drawn_border {left right : String} (drawnLeft : Drawn left) (drawnRight : Drawn right) :
    Drawn (card.border left right) :=
  (drawnLeft.append (drawn_rule _)).append drawnRight

theorem drawn_top : Drawn (card.border "┌" "┐") :=
  card.drawn_border (by decide) (by decide)

theorem drawn_bottom : Drawn (card.border "└" "┘") :=
  card.drawn_border (by decide) (by decide)

theorem length_border {left right : String} (single : left.length = 1 ∧ right.length = 1) :
    (card.border left right).length = measure card.message + 4 := by
  rw [border, String.length_append, String.length_append, single.1, single.2, rule,
    String.length_ofList, List.length_replicate]
  omega

/-- Whatever is in a message, the spaces around it keep it apart from the sides. -/
theorem measure_middle :
    measure (card.middle style) =
      measure (style "error.border" "│") + 1 + measure card.message + 1 +
        measure (style "error.border" "│") := by
  rw [middle, measure_append_space, measure_append_space]

variable {style} {card}

theorem lines_composed (kept : KeepsBreaks style) (unbroken : breaks card.message = 0) :
    lines (card.composed style) =
      [style "error.border" (card.border "┌" "┐"), card.middle style,
        style "error.border" (card.border "└" "┘")] := by
  have known : "error.border" ∈ baseNames ++ partNames := by decide
  have top : breaks (style "error.border" (card.border "┌" "┐")) = 0 := by
    rw [kept _ known, card.drawn_top.breaks_eq_zero]
  have middle : breaks (card.middle style) = 0 := by
    simp only [middle, breaks_append, kept _ known, unbroken]
    rfl
  have bottom : breaks (style "error.border" (card.border "└" "┘")) = 0 := by
    rw [kept _ known, card.drawn_bottom.breaks_eq_zero]
  rw [composed_eq, lines_append, lines_append, lines_of_unbroken top, lines_of_unbroken middle,
    lines_of_unbroken bottom]
  rfl

end ErrorCard

end WalletScreens.Screen

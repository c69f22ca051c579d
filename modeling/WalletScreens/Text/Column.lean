import WalletScreens.Text.Escape
import WalletScreens.Text.Width

/-!
Fitting text into columns: measuring, cutting and padding.

Padding measures what the terminal shows, so escape sequences do not count.  Cutting compares
the whole text with the limit first and then keeps the longest run of leading characters whose
own widths leave a column for the ellipsis.
-/

namespace WalletScreens.Text

/-- Columns the terminal shows of a text, its escape sequences left out. -/
def measure (text : String) : Nat :=
  width (Escape.strip text.toList)

/-- The longest run of leading characters whose widths add up to at most `budget`. -/
def fitting (budget : Nat) : List Char → List Char
  | [] => []
  | c :: rest =>
      if charWidth c ≤ budget then c :: fitting (budget - charWidth c) rest else []

/-- The text itself if it fits, else its start and an ellipsis. -/
def truncate (text : String) (limit : Nat) : String :=
  if width text.toList ≤ limit then text
  else String.ofList (fitting (limit - 1) text.toList ++ ['…'])

theorem truncate_of_le {text : String} {limit : Nat} (fits : width text.toList ≤ limit) :
    truncate text limit = text :=
  if_pos fits

theorem truncate_of_lt {text : String} {limit : Nat} (wide : limit < width text.toList) :
    truncate text limit = String.ofList (fitting (limit - 1) text.toList ++ ['…']) :=
  if_neg (Nat.not_le_of_lt wide)

def spaces (count : Nat) : String :=
  String.ofList (List.replicate count ' ')

def padRight (text : String) (columns : Nat) : String :=
  text ++ spaces (columns - measure text)

def padLeft (text : String) (columns : Nat) : String :=
  spaces (columns - measure text) ++ text

end WalletScreens.Text

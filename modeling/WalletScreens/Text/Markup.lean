/-!
Text inside markup, where some signs have to be written by name.
-/

namespace WalletScreens.Text

/-- The name of a sign of markup; other characters stand for themselves. -/
def markupName (c : Char) : String :=
  match c with
  | '&' => "&amp;"
  | '<' => "&lt;"
  | '>' => "&gt;"
  | '"' => "&quot;"
  | '\'' => "&#x27;"
  | '/' => "&#x2f;"
  | c => String.singleton c

def escapeMarkup (text : String) : String :=
  String.join (text.toList.map markupName)

end WalletScreens.Text

import WalletScreens.Text.Tables
import WalletScreens.Text.Unprintable

/-!
Texts shown inside a list or a record: between quotes, with what cannot be seen written as an
escape.
-/

namespace WalletScreens.Text

def codeDigits (c : Char) : List Char :=
  Nat.toDigits 16 c.toNat

/-- Whether a character between quotes is written by number: marks that would join the character
before them, and characters that are ignored or have no form of their own. -/
def isNumbered (c : Char) : Bool :=
  Tables.graphemeExtend.holds c || Tables.defaultIgnorable.holds c || Tables.unprintable.holds c

def shown (c : Char) : List Char :=
  match c with
  | '\x00' => ['\\', '0']
  | '\t' => ['\\', 't']
  | '\r' => ['\\', 'r']
  | '\n' => ['\\', 'n']
  | '\\' => ['\\', '\\']
  | '"' => ['\\', '"']
  | c =>
      if isNumbered c then '\\' :: 'u' :: '{' :: (codeDigits c ++ ['}']) else [c]

def shownText (text : String) : String :=
  "\"" ++ String.ofList (text.toList.flatMap shown) ++ "\""

end WalletScreens.Text

import WalletScreens.Text.Blank
import WalletScreens.Text.Digits
import WalletScreens.Wallet.Page

/-!
The lines that a session understands.

A line is a command and what follows it, both without the blanks around them.
-/

namespace WalletScreens.Session

open Text Wallet

inductive Event where
  | toggle
  | select (id : UInt64)
  | turnTo (page : Page)
  | fill (field value : String)
  | submit
  | redraw
  | quit
  | unknown (input : String)
deriving DecidableEq, Repr

def accountId? (word : List Char) : Option UInt64 :=
  (natural? wordLimit word).map UInt64.ofNat

def Event.ofFilling (rest : List Char) : Event :=
  let (field, value) := splitBlank rest
  .fill (String.ofList field) (String.ofList (trim (value.getD [])))

/-- The event of a line that consists of a command and a rest.  The rest of the commands for a
toggle, a submission and the end has to be empty, and that of a filling must not be. -/
def Event.ofCommand (command rest : List Char) : Option Event :=
  match command, rest with
  | [], [] => some .redraw
  | ['t'], [] => some .toggle
  | ['q'], [] => some .quit
  | ['e', 'n', 't', 'e', 'r'], [] => some .submit
  | ['s'], id => (accountId? id).map .select
  | ['p'], page => (Page.ofWord? (String.ofList page)).map .turnTo
  | ['f'], [] => none
  | ['f'], rest => some (.ofFilling rest)
  | _, _ => none

def Event.parse (line : String) : Event :=
  let line := trim line.toList
  let (command, rest) := splitBlank line
  (Event.ofCommand command (trim (rest.getD []))).getD (.unknown (String.ofList line))

end WalletScreens.Session

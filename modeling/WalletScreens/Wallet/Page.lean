/-!
The pages of the dashboard and the fields of their forms.
-/

namespace WalletScreens.Wallet

inductive Page where
  | send
  | receive
  | voting
deriving DecidableEq, Repr

namespace Page

def name : Page → String
  | .send => "send"
  | .receive => "receive"
  | .voting => "voting"

/-- The page a word names, in any case; `votes` is another word for the voting page.  Folding
the ASCII letters is enough, since no other letter has one of a page name's as its lower case. -/
def ofWord? (word : String) : Option Page :=
  let word := String.ofList (word.toList.map Char.toLower)
  if word = "send" then some .send
  else if word = "receive" then some .receive
  else if word = "voting" ∨ word = "votes" then some .voting else none

/-- Reads a page; the fault is a whole message. -/
def parse (word : String) : Except String Page :=
  match ofWord? word with
  | some page => .ok page
  | none => .error ("Invalid page: " ++ word ++ ". Expected send, receive, or voting.")

def fields : Page → List String
  | .send => ["receiver", "amount"]
  | .receive => ["amount"]
  | .voting => ["vote_id"]

end Page

end WalletScreens.Wallet

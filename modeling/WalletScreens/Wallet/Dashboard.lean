import WalletScreens.Wallet.Selection

/-!
What the main screen remembers: the accounts, the active page, what was typed into the forms of
all pages, and the votes.
-/

namespace WalletScreens.Wallet

/-- What was typed into the forms.  Each page keeps its own text, even under a shared name. -/
structure Forms where
  receiver : String := ""
  sendAmount : String := ""
  receiveAmount : String := ""
  voteId : String := ""
deriving DecidableEq, Repr

namespace Forms

def get? (forms : Forms) (page : Page) (field : String) : Option String :=
  match page with
  | .send =>
      if field = "receiver" then some forms.receiver
      else if field = "amount" then some forms.sendAmount else none
  | .receive => if field = "amount" then some forms.receiveAmount else none
  | .voting => if field = "vote_id" then some forms.voteId else none

def put? (forms : Forms) (page : Page) (field value : String) : Option Forms :=
  match page with
  | .send =>
      if field = "receiver" then some { forms with receiver := value }
      else if field = "amount" then some { forms with sendAmount := value } else none
  | .receive => if field = "amount" then some { forms with receiveAmount := value } else none
  | .voting => if field = "vote_id" then some { forms with voteId := value } else none

/-- The fields of a page's form and their texts, sorted by name. -/
def submitted (forms : Forms) : Page → List (String × String)
  | .send => [("amount", forms.sendAmount), ("receiver", forms.receiver)]
  | .receive => [("amount", forms.receiveAmount)]
  | .voting => [("vote_id", forms.voteId)]

end Forms

/-- The top of a screen; the hint has a default of its own. -/
structure Heading where
  title : Option String := none
  toggleHint : Option String := none
deriving DecidableEq, Repr

structure Vote where
  id : String
  held : UInt64
deriving DecidableEq, Repr

def defaultWidth : Nat := 48

/-- The account cards can have a width of their own. -/
structure Dashboard where
  heading : Heading := {}
  selection : Selection
  page : Page := .send
  forms : Forms := {}
  votes : List Vote := []
  width : Nat := defaultWidth
  cardWidth : Option Nat := none
deriving DecidableEq, Repr

namespace Dashboard

def ofAccounts (accounts : List Account) : Dashboard :=
  { selection := .ofAccounts accounts }

/-- Fills a field of the active page's form; tells whether it has that field. -/
def setField (dashboard : Dashboard) (field value : String) :
    Bool × Dashboard × List Notice :=
  match dashboard.forms.put? dashboard.page field value with
  | some forms => (true, { dashboard with forms }, [])
  | none => (false, dashboard, [.unknownField dashboard.page field])

def select (dashboard : Dashboard) (id : UInt64) : Option Account × Dashboard × List Notice :=
  let (account, selection, notices) := dashboard.selection.select id
  (account, { dashboard with selection }, notices)

/-- The list of the account cards is as wide as the screen where nothing else was asked for. -/
def accountColumns (dashboard : Dashboard) : Nat :=
  dashboard.cardWidth.getD dashboard.width

def submit (dashboard : Dashboard) : List (String × String) :=
  dashboard.forms.submitted dashboard.page

def address (dashboard : Dashboard) : String :=
  match dashboard.selection.account? with
  | some account => account.address
  | none => ""

end Dashboard

end WalletScreens.Wallet

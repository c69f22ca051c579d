import WalletScreens.Notice
import WalletScreens.Wallet.Account

/-!
A list of accounts with at most one id selected.

The first account starts selected.  A selection names an id, not a place in the list, so
accounts that share an id are selected together and the first of them stands for all.
-/

namespace WalletScreens.Wallet

structure Selection where
  accounts : List Account
  selected : Option UInt64
deriving DecidableEq, Repr

namespace Selection

def ofAccounts (accounts : List Account) : Selection :=
  ⟨accounts, accounts.head?.map (·.id)⟩

def find? (selection : Selection) (id : UInt64) : Option Account :=
  selection.accounts.find? (·.id == id)

def account? (selection : Selection) : Option Account :=
  selection.selected.bind selection.find?

def select (selection : Selection) (id : UInt64) : Option Account × Selection × List Notice :=
  match selection.find? id with
  | some account => (some account, { selection with selected := some id }, [])
  | none => (none, selection, [.unknownAccount id])

end Selection

end WalletScreens.Wallet

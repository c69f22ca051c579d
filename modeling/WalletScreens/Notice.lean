import WalletScreens.Theme.Mode
import WalletScreens.Wallet.Page

/-!
What is reported beside the output when a request has no effect.
-/

namespace WalletScreens

open Theme Wallet

inductive Notice where
  | toggleIgnored (fault : ThemeFault)
  | unknownAccount (id : UInt64)
  | unknownField (page : Page) (field : String)
  | unknownCommand (input : String)
deriving DecidableEq, Repr

def Notice.line : Notice → String
  | .toggleIgnored fault => "ERROR theme toggle ignored err=" ++ fault.message
  | .unknownAccount id =>
      "WARN ignoring selection of unknown account id=" ++ toString id.toNat
  | .unknownField page field =>
      "WARN ignoring unknown form field page=" ++ page.name ++ " field=" ++ field
  | .unknownCommand input => "WARN unknown command input=" ++ input

end WalletScreens

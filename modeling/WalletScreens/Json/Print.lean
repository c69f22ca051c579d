import WalletScreens.Json.Value
import WalletScreens.Number.Shortest

/-!
The compact text of a value: no blanks, and records in the order they are kept in.  A decimal
has a point even where it is whole, so it reads back as a decimal.
-/

namespace WalletScreens.Json.Value

open Number

mutual

def print : Value → String
  | .null => "null"
  | .bool true => "true"
  | .bool false => "false"
  | .natural number => toString number
  | .negative number => toString number
  | .decimal number => number.toPointedText .double
  | .text content => quoted content
  | .list items => "[" ++ ",".intercalate (printItems items) ++ "]"
  | .record fields => "\x7b" ++ ",".intercalate (printFields fields) ++ "\x7d"

def printItems : List Value → List String
  | [] => []
  | item :: rest => print item :: printItems rest

def printFields : List (String × Value) → List String
  | [] => []
  | (name, value) :: rest => (quoted name ++ ":" ++ print value) :: printFields rest

end

end WalletScreens.Json.Value

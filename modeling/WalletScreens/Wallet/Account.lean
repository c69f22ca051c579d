import WalletScreens.Json.Record

/-!
Wallet accounts and the files they are kept in.

Keys are opaque texts.  A file lists accounts as records, whose fields may come in any order
and among others that are ignored, or as plain lists of the fields in order.
-/

namespace WalletScreens.Wallet

open Json

structure Account where
  id : UInt64
  name : String
  spendKey : String
  scanKey : String
  coins : UInt64 := 0
  votes : UInt64 := 0
deriving DecidableEq, Repr

namespace Account

def address (account : Account) : String :=
  account.spendKey

/-- The fields of an account read so far. -/
structure Draft where
  id : Option UInt64 := none
  name : Option String := none
  spendKey : Option String := none
  scanKey : Option String := none
  coins : Option UInt64 := none
  votes : Option UInt64 := none
deriving DecidableEq, Repr

namespace Draft

def account? (draft : Draft) : Option Account := do
  let id ← draft.id
  let name ← draft.name
  let spendKey ← draft.spendKey
  let scanKey ← draft.scanKey
  return ⟨id, name, spendKey, scanKey, draft.coins.getD 0, draft.votes.getD 0⟩

/-- The value of a field that must not have been read before. -/
def once {α : Type} (old : Option α) (read : Reader α) (input : List Char) :
    Except Fault (Option α × List Char) := do
  if old.isSome then .error .mismatch
  else
    let rest ← readColon input
    let (value, rest) ← read rest
    return (some value, rest)

def withField (draft : Draft) (name : String) (input : List Char) :
    Except Fault (Draft × List Char) := do
  if name = "id" then
    let (id, rest) ← once draft.id readWord input
    return ({ draft with id }, rest)
  else if name = "name" then
    let (name, rest) ← once draft.name readText input
    return ({ draft with name }, rest)
  else if name = "spend_pkey" then
    let (spendKey, rest) ← once draft.spendKey readText input
    return ({ draft with spendKey }, rest)
  else if name = "scan_pkey" then
    let (scanKey, rest) ← once draft.scanKey readText input
    return ({ draft with scanKey }, rest)
  else if name = "coins" then
    let (coins, rest) ← once draft.coins readWord input
    return ({ draft with coins }, rest)
  else if name = "votes" then
    let (votes, rest) ← once draft.votes readWord input
    return ({ draft with votes }, rest)
  else
    let rest ← readColon input
    let rest ← skipValue (rest.length + 1) rest
    return (draft, rest)

def readFields : Nat → Bool → Draft → Reader Draft
  | 0, _, _, _ => .error .truncated
  | fuel + 1, first, draft, input => do
      match ← nextField first input with
      | .done rest => return (draft, rest)
      | .more input =>
          let (name, rest) ← string input
          let (draft, rest) ← draft.withField name rest
          readFields fuel false draft rest

end Draft

def nextPart {α : Type} (first : Bool) (read : Reader α) (input : List Char) :
    Except Fault (Option α × List Char) := do
  match ← nextItem first input with
  | .done rest => return (none, ']' :: rest)
  | .more input =>
      let (value, rest) ← read input
      return (some value, rest)

def readParts (input : List Char) : Except Fault (Account × List Char) := do
  let required {α : Type} (part : Option α × List Char) : Except Fault (α × List Char) :=
    match part with
    | (some value, rest) => .ok (value, rest)
    | (none, _) => .error .mismatch
  let (id, input) ← required (← nextPart true readWord input)
  let (name, input) ← required (← nextPart false readText input)
  let (spendKey, input) ← required (← nextPart false readText input)
  let (scanKey, input) ← required (← nextPart false readText input)
  let (coins, input) ← nextPart false readWord input
  let (votes, input) ← nextPart false readWord input
  let rest ← endList input
  return (⟨id, name, spendKey, scanKey, coins.getD 0, votes.getD 0⟩, rest)

def read (input : List Char) : Except Fault (Account × List Char) :=
  match skipBlanks input with
  | '{' :: rest => do
      let (draft, rest) ← Draft.readFields (rest.length + 1) true {} rest
      match draft.account? with
      | some account => return (account, rest)
      | none => .error .mismatch
  | '[' :: rest => readParts rest
  | input => .error (unexpected input)

def parse (text : String) : Except Fault Account :=
  finish (read text.toList)

def parseList (text : String) : Except Fault (List Account) :=
  finish (readList read text.toList)

def toJson (account : Account) : Json.Value :=
  .ofFields
    [("id", .natural account.id.toNat), ("name", .text account.name),
      ("spend_pkey", .text account.spendKey), ("scan_pkey", .text account.scanKey),
      ("coins", .natural account.coins.toNat), ("votes", .natural account.votes.toNat)]

end Account

end WalletScreens.Wallet

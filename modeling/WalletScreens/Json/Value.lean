import WalletScreens.Json.Scan

/-!
JSON values, their reading and their compact printing.

A record keeps its fields sorted by name, the last of equal names winning, so that two texts
that differ in the order of fields give the same value.
-/

namespace WalletScreens.Json

open Number Text

inductive Value where
  | null
  | bool (value : Bool)
  | natural (value : Nat)
  | negative (value : Int)
  | decimal (value : Binary)
  | text (value : String)
  | list (items : List Value)
  | record (fields : List (String × Value))
deriving Repr

namespace Value

def insert (name : String) (value : Value) : List (String × Value) → List (String × Value)
  | [] => [(name, value)]
  | (other, old) :: rest =>
      if name = other then (name, value) :: rest
      else if name < other then (name, value) :: (other, old) :: rest
      else (other, old) :: insert name value rest

def ofFields (fields : List (String × Value)) : Value :=
  .record (fields.foldl (fun sorted field => insert field.1 field.2 sorted) [])

def field? (value : Value) (name : String) : Option Value :=
  match value with
  | .record fields => fields.lookup name
  | _ => none

def ofLiteral (negative : Bool) (literal : Literal) : Except Fault Value :=
  let asDecimal : Except Fault Value :=
    match literal.toBinary? negative with
    | some value => .ok (.decimal value)
    | none => .error .malformed
  if literal.whole then
    if !negative then .ok (.natural literal.significand)
    else if 0 < literal.significand ∧ literal.significand ≤ 9223372036854775808 then
      .ok (.negative (-(literal.significand : Int)))
    else asDecimal
  else asDecimal

mutual

def scan : Nat → Reader Value
  | 0, _ => .error .truncated
  | fuel + 1, input =>
      match skipBlanks input with
      | [] => .error .truncated
      | 'n' :: rest => (word ['u', 'l', 'l'] rest).map fun rest => (.null, rest)
      | 't' :: rest => (word ['r', 'u', 'e'] rest).map fun rest => (.bool true, rest)
      | 'f' :: rest => (word ['a', 'l', 's', 'e'] rest).map fun rest => (.bool false, rest)
      | '"' :: rest => (string rest).map fun read => (.text read.1, read.2)
      | '-' :: rest => do
          let (literal, rest) ← Literal.scan rest
          return (← ofLiteral true literal, rest)
      | '[' :: rest =>
          match skipBlanks rest with
          | ']' :: rest => .ok (.list [], rest)
          | [] => .error .truncated
          | rest => (scanItems fuel rest).map fun read => (.list read.1, read.2)
      | '{' :: rest =>
          match skipBlanks rest with
          | '}' :: rest => .ok (.record [], rest)
          | [] => .error .truncated
          | rest => (scanFields fuel rest).map fun read => (ofFields read.1, read.2)
      | c :: rest =>
          if isDigit c then do
            let (literal, rest) ← Literal.scan (c :: rest)
            return (← ofLiteral false literal, rest)
          else .error .malformed

def scanItems : Nat → Reader (List Value)
  | 0, _ => .error .truncated
  | fuel + 1, input => do
      let (item, rest) ← scan fuel input
      match skipBlanks rest with
      | ',' :: rest =>
          let (items, rest) ← scanItems fuel rest
          return (item :: items, rest)
      | ']' :: rest => return ([item], rest)
      | [] => .error .truncated
      | _ => .error .malformed

def scanFields : Nat → Reader (List (String × Value))
  | 0, _ => .error .truncated
  | fuel + 1, input =>
      match skipBlanks input with
      | '"' :: rest => do
          let (name, rest) ← string rest
          match skipBlanks rest with
          | ':' :: rest =>
              let (value, rest) ← scan fuel rest
              match skipBlanks rest with
              | ',' :: rest =>
                  let (fields, rest) ← scanFields fuel rest
                  return ((name, value) :: fields, rest)
              | '}' :: rest => return ([(name, value)], rest)
              | [] => .error .truncated
              | _ => .error .malformed
          | [] => .error .truncated
          | _ => .error .malformed
      | [] => .error .truncated
      | _ => .error .malformed

end

end Value

/-- What remains of a text after its value has to be blank. -/
def finish {α : Type} (read : Except Fault (α × List Char)) : Except Fault α :=
  match read with
  | .error fault => .error fault
  | .ok (value, rest) =>
      match skipBlanks rest with
      | [] => .ok value
      | _ => .error .malformed

def Value.parse (text : String) : Except Fault Value :=
  let input := text.toList
  finish (Value.scan (input.length + 1) input)

def escaped (c : Char) : List Char :=
  match c with
  | '"' => ['\\', '"']
  | '\\' => ['\\', '\\']
  | '\x08' => ['\\', 'b']
  | '\x0c' => ['\\', 'f']
  | '\n' => ['\\', 'n']
  | '\r' => ['\\', 'r']
  | '\t' => ['\\', 't']
  | c => if c.toNat < 0x20 then '\\' :: 'u' :: '0' :: '0' :: hexPair (UInt8.ofNat c.toNat) else [c]

def quoted (text : String) : String :=
  "\"" ++ String.ofList (text.toList.flatMap escaped) ++ "\""

end WalletScreens.Json

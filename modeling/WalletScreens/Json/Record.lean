import WalletScreens.Json.Value

/-!
Reading values of a known shape straight from a text.

Unlike `Value.parse`, these readers know what they expect and stop at the first thing that is
not it.  A value of another shape is looked at just far enough to tell broken text from a
mismatch; a value that nobody asked for is skipped.
-/

namespace WalletScreens.Json

open Number Text

mutual

def skipValue : Nat → List Char → Except Fault (List Char)
  | 0, _ => .error .truncated
  | fuel + 1, input =>
      match skipBlanks input with
      | [] => .error .truncated
      | 'n' :: rest => word ['u', 'l', 'l'] rest
      | 't' :: rest => word ['r', 'u', 'e'] rest
      | 'f' :: rest => word ['a', 'l', 's', 'e'] rest
      | '"' :: rest => skipString rest
      | '-' :: rest => skipNumber rest
      | '[' :: rest =>
          match skipBlanks rest with
          | ']' :: rest => .ok rest
          | [] => .error .truncated
          | rest => skipItems fuel rest
      | '{' :: rest =>
          match skipBlanks rest with
          | '}' :: rest => .ok rest
          | [] => .error .truncated
          | rest => skipFields fuel rest
      | c :: rest => if isDigit c then skipNumber (c :: rest) else .error .malformed

def skipItems : Nat → List Char → Except Fault (List Char)
  | 0, _ => .error .truncated
  | fuel + 1, input => do
      let rest ← skipValue fuel input
      match skipBlanks rest with
      | ',' :: rest => skipItems fuel rest
      | ']' :: rest => return rest
      | [] => .error .truncated
      | _ => .error .malformed

def skipFields : Nat → List Char → Except Fault (List Char)
  | 0, _ => .error .truncated
  | fuel + 1, input =>
      match skipBlanks input with
      | '"' :: rest => do
          let rest ← skipString rest
          match skipBlanks rest with
          | ':' :: rest =>
              let rest ← skipValue fuel rest
              match skipBlanks rest with
              | ',' :: rest => skipFields fuel rest
              | '}' :: rest => return rest
              | [] => .error .truncated
              | _ => .error .malformed
          | [] => .error .truncated
          | _ => .error .malformed
      | [] => .error .truncated
      | _ => .error .malformed

end

/-- The fault of a value that has another shape than was asked for, from its first token. -/
def unexpected (input : List Char) : Fault :=
  let ofWord (letters rest : List Char) : Fault :=
    match word letters rest with
    | .error fault => fault
    | .ok _ => .mismatch
  let ofNumber (negative : Bool) (rest : List Char) : Fault :=
    match Literal.scan rest with
    | .error fault => fault
    | .ok (literal, _) =>
        match Value.ofLiteral negative literal with
        | .error fault => fault
        | .ok _ => .mismatch
  match input with
  | [] => .truncated
  | 'n' :: rest => ofWord ['u', 'l', 'l'] rest
  | 't' :: rest => ofWord ['r', 'u', 'e'] rest
  | 'f' :: rest => ofWord ['a', 'l', 's', 'e'] rest
  | '"' :: rest =>
      match string rest with
      | .error fault => fault
      | .ok _ => .mismatch
  | '-' :: rest => ofNumber true rest
  | '[' :: _ => .mismatch
  | '{' :: _ => .mismatch
  | c :: rest => if isDigit c then ofNumber false (c :: rest) else .malformed

/-- A whole number that fits a 64-bit word. -/
def readWord (input : List Char) : Except Fault (UInt64 × List Char) :=
  let input := skipBlanks input
  match input with
  | c :: _ =>
      if isDigit c then
        match Literal.scan input with
        | .error fault => .error fault
        | .ok (literal, rest) =>
            match Value.ofLiteral false literal with
            | .error fault => .error fault
            | .ok (.natural value) => .ok (UInt64.ofNat value, rest)
            | .ok _ => .error .mismatch
      else .error (unexpected input)
  | [] => .error .truncated

def readText (input : List Char) : Except Fault (String × List Char) :=
  match skipBlanks input with
  | '"' :: rest => string rest
  | input => .error (unexpected input)

def readColon (input : List Char) : Except Fault (List Char) :=
  match skipBlanks input with
  | ':' :: rest => .ok rest
  | [] => .error .truncated
  | _ => .error .malformed

inductive Next where
  | more (input : List Char)
  | done (rest : List Char)

/-- The next name of a record, after `first` tells whether one has been read before. -/
def nextField (first : Bool) (input : List Char) : Except Fault Next :=
  let name (input : List Char) : Except Fault Next :=
    match input with
    | '"' :: rest => .ok (.more rest)
    | [] => .error .truncated
    | _ => .error .malformed
  match skipBlanks input with
  | [] => .error .truncated
  | '}' :: rest => .ok (.done rest)
  | c :: rest =>
      if first then name (c :: rest)
      else if c = ',' then name (skipBlanks rest)
      else .error .malformed

def nextItem (first : Bool) (input : List Char) : Except Fault Next :=
  match skipBlanks input with
  | [] => .error .truncated
  | ']' :: rest => .ok (.done rest)
  | c :: rest =>
      if first then .ok (.more (c :: rest))
      else if c = ',' then
        match skipBlanks rest with
        | [] => .error .truncated
        | ']' :: _ => .error .malformed
        | rest => .ok (.more rest)
      else .error .malformed

def endList (input : List Char) : Except Fault (List Char) :=
  match skipBlanks input with
  | ']' :: rest => .ok rest
  | [] => .error .truncated
  | _ => .error .malformed

def readItems {α : Type} (read : Reader α) : Nat → Bool → Reader (List α)
  | 0, _, _ => .error .truncated
  | fuel + 1, first, input => do
      match ← nextItem first input with
      | .done rest => return ([], rest)
      | .more input =>
          let (item, rest) ← read input
          let (items, rest) ← readItems read fuel false rest
          return (item :: items, rest)

def readList {α : Type} (read : Reader α) (input : List Char) :
    Except Fault (List α × List Char) :=
  match skipBlanks input with
  | '[' :: rest => readItems read (rest.length + 1) true rest
  | input => .error (unexpected input)

/-- One of a set of names, as a text or as a record from the name to null. -/
def readName {α : Type} (ofName? : String → Option α) (input : List Char) :
    Except Fault (α × List Char) :=
  let named (input : List Char) : Except Fault (α × List Char) := do
    let (name, rest) ← string input
    match ofName? name with
    | some value => return (value, rest)
    | none => .error .mismatch
  match skipBlanks input with
  | '"' :: rest => named rest
  | '{' :: rest => do
      let .more rest ← nextField true rest | .error .malformed
      let (value, rest) ← named rest
      let rest ← readColon rest
      match skipBlanks rest with
      | 'n' :: rest =>
          let rest ← word ['u', 'l', 'l'] rest
          match skipBlanks rest with
          | '}' :: rest => return (value, rest)
          | [] => .error .truncated
          | _ => .error .malformed
      | rest => .error (unexpected rest)
  | [] => .error .truncated
  | _ => .error .malformed

end WalletScreens.Json

import WalletScreens.Template.Token
import WalletScreens.Template.Value

/-!
Expressions inside holes and blocks, and their reading from tokens.

Members bind tightest after the minus sign, then filters, then joining with a tilde, then
`not`, `and` and `or`, and last the choice between two values.  Each reader gives what it read
and the tokens after it, or the fault of the first token that does not fit.  A reader's `room`
is how many levels of nesting are left to it.
-/

namespace WalletScreens.Template

inductive Link where
  | join
  | both
  | either
deriving DecidableEq, Repr

mutual

inductive Expr where
  | literal (value : Value)
  | reference (name : String)
  | list (items : List Expr)
  | member (subject : Expr) (name : String)
  | negate (operand : Expr)
  | opposite (operand : Expr)
  | linked (link : Link) (left right : Expr)
  | choose (test chosen : Expr) (other : Option Expr)
  | filter (subject : Expr) (name : String) (arguments : List Argument)

/-- An argument of a filter; one with a star stands for any number of them. -/
inductive Argument where
  | value (expr : Expr)
  | spread (expr : Expr)
  | named (name : String) (expr : Expr)
  | spreadNamed (expr : Expr)

end

abbrev Rest := List Token

namespace Token

def refusal : List Token → Fault
  | .broken fault :: _ => fault
  | _ => .malformed

def expect (token : Token) : List Token → Except Fault Rest
  | [] => .error .malformed
  | first :: rest => if first = token then .ok rest else .error (refusal (first :: rest))

def look : List Token → Except Fault Unit
  | .broken fault :: _ => .error fault
  | _ => .ok ()

/-- The texts that stand directly after a text are joined to it. -/
def joined (text : String) : List Token → String × Rest
  | .text more :: rest => joined (text ++ more) rest
  | rest => (text, rest)

def dotted (name : String) : List Token → Except Fault (String × Rest)
  | .dot :: .name more :: rest => dotted (name ++ "." ++ more) rest
  | .dot :: rest => .error (refusal rest)
  | rest => .ok (name, rest)

end Token

namespace Expr

def constant? (name : String) : Option Value :=
  if name = "true" ∨ name = "True" then some (.bool true)
  else if name = "false" ∨ name = "False" then some (.bool false)
  else if name = "none" ∨ name = "None" then some .null
  else none

def argumentLimit : Nat := 2000

def afterLink? : Link → List Token → Option Rest
  | .join, .tilde :: rest => some rest
  | .both, .name "and" :: rest => some rest
  | .either, .name "or" :: rest => some rest
  | _, _ => none

mutual

def read : Nat → Nat → List Token → Except Fault (Expr × Rest)
  | fuel + 1, room + 1, tokens => do
      let (expr, rest) ← readLinked fuel room .either tokens
      readChoices fuel room expr rest
  | _, _, _ => .error .malformed
termination_by structural fuel => fuel

def readChoices : Nat → Nat → Expr → List Token → Except Fault (Expr × Rest)
  | 0, _, _, _ => .error .malformed
  | fuel + 1, room, expr, tokens =>
      match tokens with
      | .name "if" :: rest => do
          let (test, rest) ← readLinked fuel room .either rest
          match rest with
          | .name "else" :: rest =>
              let (first, rest) ← readLinked fuel room .either rest
              let (other, rest) ← readChoices fuel room first rest
              readChoices fuel room (.choose test expr (some other)) rest
          | _ => readChoices fuel room (.choose test expr none) rest
      | _ => .ok (expr, tokens)
termination_by structural fuel => fuel

def readLinked : Nat → Nat → Link → List Token → Except Fault (Expr × Rest)
  | 0, _, _, _ => .error .malformed
  | fuel + 1, room, link, tokens => do
      let (expr, rest) ← readOperand fuel room link tokens
      readLinks fuel room link expr rest
termination_by structural fuel => fuel

def readLinks : Nat → Nat → Link → Expr → List Token → Except Fault (Expr × Rest)
  | 0, _, _, _, _ => .error .malformed
  | fuel + 1, room, link, expr, tokens =>
      match afterLink? link tokens with
      | some rest => do
          let (right, rest) ← readOperand fuel room link rest
          readLinks fuel room link (.linked link expr right) rest
      | none => .ok (expr, tokens)
termination_by structural fuel => fuel

def readOperand : Nat → Nat → Link → List Token → Except Fault (Expr × Rest)
  | 0, _, _, _ => .error .malformed
  | fuel + 1, room, .either, tokens => readLinked fuel room .both tokens
  | fuel + 1, room, .both, tokens =>
      match tokens with
      | .name "not" :: rest => do
          let (expr, rest) ← readOperand fuel room .both rest
          return (.opposite expr, rest)
      | _ => readLinked fuel room .join tokens
  | fuel + 1, room, .join, tokens => do
      let (expr, rest) ← readSigned fuel room tokens
      let (expr, rest) ← readMembers fuel expr rest
      readFilters fuel room expr rest
termination_by structural fuel => fuel

def readSigned : Nat → Nat → List Token → Except Fault (Expr × Rest)
  | 0, _, _ => .error .malformed
  | fuel + 1, room, tokens =>
      match tokens with
      | .minus :: rest => do
          let (expr, rest) ← readSigned fuel room rest
          return (.negate expr, rest)
      | .broken fault :: _ => .error fault
      | _ => readPrimary fuel room tokens
termination_by structural fuel => fuel

/-- A value that is not put together, or one in brackets, one level down. -/
def readPrimary : Nat → Nat → List Token → Except Fault (Expr × Rest)
  | fuel + 1, room + 1, tokens =>
      match tokens with
      | .name name :: rest =>
          match constant? name with
          | some value => .ok (.literal value, rest)
          | none => .ok (.reference name, rest)
      | .text text :: rest =>
          let (text, rest) := Token.joined text rest
          .ok (.literal (.text text), rest)
      | .number value :: rest => .ok (.literal (.ofNumeral value), rest)
      | .opening :: .closing :: rest => .ok (.list [], rest)
      | .opening :: rest => do
          Token.look rest
          let (expr, rest) ← read fuel room rest
          match rest with
          | .comma :: rest =>
              let (items, rest) ← readItems fuel room .closing rest
              return (.list (expr :: items), rest)
          | _ => return (expr, ← Token.expect .closing rest)
      | .listOpening :: rest => do
          let (items, rest) ← readItems fuel room .listClosing rest
          return (.list items, rest)
      | _ => .error (Token.refusal tokens)
  | _, _, _ => .error .malformed
termination_by structural fuel => fuel

def readItems : Nat → Nat → Token → List Token → Except Fault (List Expr × Rest)
  | 0, _, _, _ => .error .malformed
  | fuel + 1, room, last, tokens =>
      if tokens.head? = some last then .ok ([], tokens.tail)
      else do
        Token.look tokens
        let (item, rest) ← read fuel room tokens
        match rest with
        | .comma :: rest =>
            let (items, rest) ← readItems fuel room last rest
            return (item :: items, rest)
        | _ => return ([item], ← Token.expect last rest)
termination_by structural fuel => fuel

def readMembers : Nat → Expr → List Token → Except Fault (Expr × Rest)
  | 0, _, _ => .error .malformed
  | fuel + 1, expr, tokens =>
      match tokens with
      | .dot :: .name name :: rest => readMembers fuel (.member expr name) rest
      | .dot :: rest => .error (Token.refusal rest)
      | _ => do
          Token.look tokens
          return (expr, tokens)
termination_by structural fuel => fuel

def readFilters : Nat → Nat → Expr → List Token → Except Fault (Expr × Rest)
  | 0, _, _, _ => .error .malformed
  | fuel + 1, room, expr, tokens =>
      match tokens with
      | .pipe :: rest => do
          let (name, arguments, rest) ← readCall fuel room rest
          readFilters fuel room (.filter expr name arguments) rest
      | _ => do
          Token.look tokens
          return (expr, tokens)
termination_by structural fuel => fuel

def readCall : Nat → Nat → List Token → Except Fault (String × List Argument × Rest)
  | 0, _, _ => .error .malformed
  | fuel + 1, room, tokens =>
      match tokens with
      | .name first :: rest => do
          let (name, rest) ← Token.dotted first rest
          match rest with
          | .opening :: rest =>
              let (arguments, rest) ← readArguments fuel room 0 false rest
              return (name, arguments, rest)
          | _ => return (name, [], rest)
      | _ => .error (Token.refusal tokens)
termination_by structural fuel => fuel

/-- The arguments of a filter after the first `count`, up to and with the closing bracket;
`named` tells whether one of them has a name. -/
def readArguments : Nat → Nat → Nat → Bool → List Token → Except Fault (List Argument × Rest)
  | 0, _, _, _, _ => .error .malformed
  | fuel + 1, room, count, named, tokens =>
      if tokens.head? = some .closing then .ok ([], tokens.tail)
      else do
        Token.look tokens
        let (argument, rest) ← readArgument fuel room named tokens
        if count = argumentLimit then .error .malformed
        else
          let named := match argument with
            | .named _ _ | .spreadNamed _ => true
            | .value _ | .spread _ => named
          match rest with
          | .comma :: rest =>
              let (arguments, rest) ← readArguments fuel room (count + 1) named rest
              return (argument :: arguments, rest)
          | _ => return ([argument], ← Token.expect .closing rest)
termination_by structural fuel => fuel

/-- One argument.  After one that has a name there is none without. -/
def readArgument : Nat → Nat → Bool → List Token → Except Fault (Argument × Rest)
  | 0, _, _, _ => .error .malformed
  | fuel + 1, room, named, tokens =>
      match tokens with
      | .doubleStar :: rest => do
          let (expr, rest) ← read fuel room rest
          return (.spreadNamed expr, rest)
      | .star :: rest => do
          let (expr, rest) ← read fuel room rest
          return (.spread expr, rest)
      | _ => do
          match ← read fuel room tokens with
          | (.reference name, .equals :: rest) =>
              let (expr, rest) ← readLinked fuel room .either rest
              return (.named name expr, rest)
          | (expr, rest) => if named then .error .malformed else return (.value expr, rest)
termination_by structural fuel => fuel

end

/-- Calls of readers until a token is taken are fewer than this. -/
def stepsPerToken : Nat := 16

def ofTokens (room : Nat) (tokens : List Token) : Except Fault (Expr × Rest) :=
  read (stepsPerToken * (tokens.length + 1)) room tokens

def testOfTokens (room : Nat) (tokens : List Token) : Except Fault (Expr × Rest) :=
  readLinked (stepsPerToken * (tokens.length + 1)) room .either tokens

def callOfTokens (room : Nat) (tokens : List Token) :
    Except Fault (String × List Argument × Rest) :=
  readCall (stepsPerToken * (tokens.length + 1)) room tokens

end Expr

end WalletScreens.Template

import WalletScreens.Template.Expr

/-!
Templates as lists of nodes, and their reading from tokens.

A block is a statement: an assignment, a capture of what its body writes, or a branch.  Every
block inside another is one level down.
-/

namespace WalletScreens.Template

inductive Target where
  | reference (name : String)
  | member (subject : Expr) (name : String)
  | unpack (targets : List Target)

inductive Node where
  | literal (text : String)
  | emit (expr : Expr)
  | assign (target : Target) (expr : Expr)
  | capture (target : Target) (filters : List (String × List Argument)) (body : List Node)
  | branch (test : Expr) (yes no : List Node)

namespace Target

def reservedNames : List String :=
  ["true", "True", "false", "False", "none", "None", "loop", "self"]

def readName : List Token → Except Fault (String × Rest)
  | .name name :: rest => if name ∈ reservedNames then .error .malformed else .ok (name, rest)
  | tokens => .error (Token.refusal tokens)

def readMember (target : Target) (subject : Expr) : List Token → Except Fault (Target × Rest)
  | .dot :: .name name :: rest => readMember (.member subject name) (.member subject name) rest
  | .dot :: rest => .error (Token.refusal rest)
  | rest => .ok (target, rest)

def endsTargets : List Token → Bool
  | .closing :: _ | .leave _ :: _ | .name "in" :: _ => true
  | _ => false

mutual

def readAll : Nat → List Token → Except Fault (List Target × Bool × Rest)
  | 0, _ => .error .malformed
  | fuel + 1, tokens =>
      if endsTargets tokens then .ok ([], false, tokens)
      else do
        let (target, rest) ← readItem fuel tokens
        match rest with
        | .comma :: rest =>
            let (targets, _, rest) ← readAll fuel rest
            return (target :: targets, true, rest)
        | _ => return ([target], false, rest)

def readItem : Nat → List Token → Except Fault (Target × Rest)
  | 0, _ => .error .malformed
  | fuel + 1, tokens =>
      match tokens with
      | .opening :: rest => do
          let (targets, several, rest) ← readAll fuel rest
          let rest ← Token.expect .closing rest
          match targets, several with
          | [target], false => return (target, rest)
          | targets, _ => return (.unpack targets, rest)
      | _ => do
          let (name, rest) ← readName tokens
          return (.reference name, rest)

end

def ofTokens (tokens : List Token) : Except Fault (Target × Bool × Rest) :=
  match tokens with
  | .opening :: _ => do
      let (target, rest) ← readItem (2 * (tokens.length + 1)) tokens
      return (target, true, rest)
  | _ => do
      let (name, rest) ← readName tokens
      let (target, rest) ← readMember (.reference name) (.reference name) rest
      return (target, false, rest)

end Target

namespace Node

def readFilters : Nat → Nat → List Token → Except Fault (List (String × List Argument) × Rest)
  | 0, _, _ => .error .malformed
  | fuel + 1, room, tokens => do
      let (name, arguments, rest) ← Expr.callOfTokens room tokens
      match rest with
      | .pipe :: rest =>
          let (filters, rest) ← readFilters fuel room rest
          return ((name, arguments) :: filters, rest)
      | _ => return ([(name, arguments)], ← Token.expect (.leave .block) rest)

mutual

/-- The nodes up to a block that begins with one of the names in `ends`, and the tokens from
that name on; or up to the end of the source. -/
def read : Nat → Nat → List String → List Token → Except Fault (List Node × Rest)
  | 0, _, _, _ => .error .malformed
  | fuel + 1, room, ends, tokens =>
      let after (node : Node) (rest : Rest) : Except Fault (List Node × Rest) := do
        let (nodes, rest) ← read fuel room ends rest
        return (node :: nodes, rest)
      match tokens with
      | [] => .ok ([], [])
      | .literal text :: rest => after (.literal text) rest
      | .enter .hole :: rest => do
          let (expr, rest) ← Expr.ofTokens room rest
          let rest ← Token.expect (.leave .hole) rest
          after (.emit expr) rest
      | .enter .block :: .name name :: rest =>
          if name ∈ ends then .ok ([], .name name :: rest)
          else do
            let (node, rest) ← readStatement fuel room name rest
            let rest ← Token.expect (.leave .block) rest
            after node rest
      | .enter .block :: rest => .error (Token.refusal rest)
      | _ => .error (Token.refusal tokens)
termination_by structural fuel => fuel

def readStatement : Nat → Nat → String → List Token → Except Fault (Node × Rest)
  | fuel + 1, room + 1, "if", tokens => readBranch fuel room tokens
  | fuel + 1, room + 1, "set", tokens => readSet fuel room tokens
  | _, _, _, _ => .error .malformed
termination_by structural fuel => fuel

def readBranch : Nat → Nat → List Token → Except Fault (Node × Rest)
  | 0, _, _ => .error .malformed
  | fuel + 1, room, tokens => do
      let (test, rest) ← Expr.testOfTokens room tokens
      let rest ← Token.expect (.leave .block) rest
      let (yes, rest) ← read fuel room ["endif", "else", "elif"] rest
      match rest with
      | .name "else" :: rest =>
          let rest ← Token.expect (.leave .block) rest
          let (no, rest) ← read fuel room ["endif"] rest
          return (.branch test yes no, rest.tail)
      | .name "elif" :: rest =>
          let (next, rest) ← readBranch fuel room rest
          return (.branch test yes [next], rest)
      | _ => return (.branch test yes [], rest.tail)
termination_by structural fuel => fuel

/-- An assignment from its target on; without a value it captures what its body writes. -/
def readSet : Nat → Nat → List Token → Except Fault (Node × Rest)
  | 0, _, _ => .error .malformed
  | fuel + 1, room, tokens => do
      let capture (target : Target) (filters : List (String × List Argument)) (rest : Rest) :
          Except Fault (Node × Rest) := do
        let (body, rest) ← read fuel room ["endset"] rest
        return (.capture target filters body, rest.tail)
      match ← Target.ofTokens tokens with
      | (target, false, .leave .block :: rest) => capture target [] rest
      | (target, false, .pipe :: rest) =>
          let (filters, rest) ← readFilters (rest.length + 1) room rest
          capture target filters rest
      | (target, _, rest) =>
          let rest ← Token.expect .equals rest
          let (expr, rest) ← Expr.ofTokens room rest
          return (.assign target expr, rest)
termination_by structural fuel => fuel

end

def nestingLimit : Nat := 150

/-- The nodes of a whole source.  Of the readers' calls at most three in a row take no token. -/
def ofTokens (tokens : List Token) : Except Fault (List Node) := do
  let (nodes, _) ← read (4 * (tokens.length + 1)) nestingLimit [] tokens
  return nodes

def ofSource (source : String) : Except Fault (List Node) :=
  ofTokens (Token.ofSource source)

end Node

end WalletScreens.Template

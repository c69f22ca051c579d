import WalletScreens.Template.Filter
import WalletScreens.Template.Node

/-!
Rendering templates.

Assignments made so far shadow the data, inside branches as well as outside, and the data
shadows the functions that every template knows.  What is not defined is written as nothing.

A template that is named like a file of markup escapes what it emits.  What it captures of its own
output is markup by then and is not escaped again.
-/

namespace WalletScreens.Template

/-- The names a template has assigned, latest first, over the data it was given. -/
structure Scope where
  assigned : List (String × Value) := []
  data : Json.Value

namespace Scope

def functions : List String :=
  ["range", "dict", "debug", "namespace"]

def get (scope : Scope) (name : String) : Value :=
  match scope.assigned.lookup name with
  | some value => value
  | none =>
      match scope.data.field? name with
      | some value => .ofJson value
      | none => if name ∈ functions then .function name else .undefined

def assign (scope : Scope) (name : String) (value : Value) : Scope :=
  { scope with assigned := (name, value) :: scope.assigned }

end Scope

def Value.member (value : Value) (name : String) : Except Fault Value :=
  match value with
  | .undefined => .error .undefinedValue
  | value => .ok (value.field name)

def Value.negated (value : Value) : Except Fault Value :=
  match value.opposite? with
  | some opposite => .ok opposite
  | none => .error .invalidOperation

namespace Filter

def passEach : List (Bool × Value) → Except Fault (List Passed)
  | [] => .ok []
  | (spreads, value) :: rest =>
      if spreads then
        match value.items? with
        | some items => (passEach rest).map (items.map .value ++ ·)
        | none => .error .invalidOperation
      else (passEach rest).map (.value value :: ·)

/-- What is passed for the values of arguments without and with names.  Names can be spread
from a list or a record only. -/
def passAll (unnamed named : List (Bool × Value)) : Except Fault (List Passed) :=
  if named.any fun entry => entry.1 && entry.2.members?.isNone then .error .invalidOperation
  else (passEach unnamed).map (· ++ if named.isEmpty then [] else [.named])

def applyNamed (surface : Surface) (name : String) (subject : Value)
    (unnamed named : List (Bool × Value)) : Except Fault String := do
  let passed ← passAll unnamed named
  match ofName? name with
  | some filter => filter.apply surface subject passed
  | none => .error .unknownFilter

end Filter

mutual

def Expr.eval (surface : Surface) (scope : Scope) : Expr → Except Fault Value
  | .literal value => .ok value
  | .reference name => .ok (scope.get name)
  | .list items => do return .list (← Expr.evalAll surface scope items)
  | .member subject name => do (← subject.eval surface scope).member name
  | .negate operand => do (← operand.eval surface scope).negated
  | .opposite operand => do return .bool !(← operand.eval surface scope).isTrue
  | .linked .join left right => do
      let left ← left.eval surface scope
      let right ← right.eval surface scope
      return .text (left.toText ++ right.toText)
  | .linked .both left right => do
      let left ← left.eval surface scope
      if left.isTrue then right.eval surface scope else return left
  | .linked .either left right => do
      let left ← left.eval surface scope
      if left.isTrue then return left else right.eval surface scope
  | .choose test chosen other => do
      let test ← test.eval surface scope
      if test.isTrue then chosen.eval surface scope
      else
        match other with
        | some other => other.eval surface scope
        | none => return .undefined
  | .filter subject name arguments => do
      let subject ← subject.eval surface scope
      let unnamed ← Argument.evalUnnamed surface scope arguments
      let named ← Argument.evalNamed surface scope arguments
      return .text (← Filter.applyNamed surface name subject unnamed named)

def Expr.evalAll (surface : Surface) (scope : Scope) : List Expr → Except Fault (List Value)
  | [] => .ok []
  | expr :: exprs => do
      let value ← expr.eval surface scope
      let values ← Expr.evalAll surface scope exprs
      return value :: values

def Argument.evalUnnamed (surface : Surface) (scope : Scope) :
    List Argument → Except Fault (List (Bool × Value))
  | [] => .ok []
  | .value expr :: rest => do
      let value ← expr.eval surface scope
      return (false, value) :: (← Argument.evalUnnamed surface scope rest)
  | .spread expr :: rest => do
      let value ← expr.eval surface scope
      return (true, value) :: (← Argument.evalUnnamed surface scope rest)
  | .named _ _ :: rest => Argument.evalUnnamed surface scope rest
  | .spreadNamed _ :: rest => Argument.evalUnnamed surface scope rest

def Argument.evalNamed (surface : Surface) (scope : Scope) :
    List Argument → Except Fault (List (Bool × Value))
  | [] => .ok []
  | .named _ expr :: rest => do
      let value ← expr.eval surface scope
      return (false, value) :: (← Argument.evalNamed surface scope rest)
  | .spreadNamed expr :: rest => do
      let value ← expr.eval surface scope
      return (true, value) :: (← Argument.evalNamed surface scope rest)
  | .value _ :: rest => Argument.evalNamed surface scope rest
  | .spread _ :: rest => Argument.evalNamed surface scope rest

end

def Argument.applyFilters (surface : Surface) (scope : Scope) (subject : Value) :
    List (String × List Argument) → Except Fault Value
  | [] => .ok subject
  | (name, arguments) :: rest => do
      let unnamed ← Argument.evalUnnamed surface scope arguments
      let named ← Argument.evalNamed surface scope arguments
      let text ← Filter.applyNamed surface name subject unnamed named
      Argument.applyFilters surface scope (.text text) rest

mutual

/-- The scope after an assignment.  No member of a value can be assigned to. -/
def Target.assign (surface : Surface) (scope : Scope) (value : Value) :
    Target → Except Fault Scope
  | .reference name => .ok (scope.assign name value)
  | .member subject _ => do
      let _ ← subject.eval surface scope
      .error .invalidOperation
  | .unpack targets =>
      match value.members? with
      | none => .error .cannotUnpack
      | some values =>
          if values.length = targets.length then Target.assignAll surface scope values targets
          else .error .cannotUnpack

def Target.assignAll (surface : Surface) (scope : Scope) (values : List Value) :
    List Target → Except Fault Scope
  | [] => .ok scope
  | target :: targets => do
      let scope ← target.assign surface scope (values.headD .undefined)
      Target.assignAll surface scope values.tail targets

end

namespace Surface

def emitted (surface : Surface) (value : Value) : String :=
  if surface.escapes then value.toMarkup else value.toText

def captured (surface : Surface) (text : String) : Value :=
  if surface.escapes then .markup text else .text text

end Surface

mutual

/-- What a node writes, and the names assigned after it. -/
def Node.render (surface : Surface) (scope : Scope) : Node → Except Fault (String × Scope)
  | .literal text => .ok (text, scope)
  | .emit expr => do return (surface.emitted (← expr.eval surface scope), scope)
  | .assign target expr => do
      let value ← expr.eval surface scope
      return ("", ← target.assign surface scope value)
  | .capture target filters body => do
      let (text, scope) ← Node.renderAll surface scope body
      let value ← Argument.applyFilters surface scope (surface.captured text) filters
      return ("", ← target.assign surface scope value)
  | .branch test yes no => do
      let test ← test.eval surface scope
      if test.isTrue then Node.renderAll surface scope yes
      else Node.renderAll surface scope no

def Node.renderAll (surface : Surface) (scope : Scope) :
    List Node → Except Fault (String × Scope)
  | [] => .ok ("", scope)
  | node :: nodes => do
      let (text, scope) ← node.render surface scope
      let (texts, scope) ← Node.renderAll surface scope nodes
      return (text ++ texts, scope)

end

def render (surface : Surface) (nodes : List Node) (data : Json.Value) : Except Fault String :=
  (Node.renderAll surface { data } nodes).map Prod.fst

abbrev Library := List (String × List Node)

namespace Library

def wrappings : List String :=
  [".j2", ".jinja2", ".jinja"]

/-- The last part of a name between dots, or the one before it if the last says that the file is a
template. -/
def extension (name : String) : String :=
  let unwrapped := match wrappings.find? fun wrapping =>
      wrapping.toList.isSuffixOf name.toList with
    | some wrapping => name.toList.take (name.length - wrapping.length)
    | none => name.toList
  String.ofList (unwrapped.reverse.takeWhile (· != '.')).reverse

/-- Whether the template of that name escapes what it emits. -/
def escapes (name : String) : Bool :=
  extension name ∈ ["html", "htm", "xml"]

example : escapes "card.html.j2" = true ∧ escapes "html.card" = false := by decide

def add (library : Library) (name source : String) : Except Fault Library :=
  (Node.ofSource source).map fun nodes => (name, nodes) :: library

def renderNamed (library : Library) (surface : Surface) (name : String) (data : Json.Value) :
    Except Fault String :=
  match library.lookup name with
  | some nodes => render { surface with escapes := escapes name } nodes data
  | none => .error .templateNotFound

end Library

def renderSource (surface : Surface) (source : String) (data : Json.Value) :
    Except Fault String :=
  (Node.ofSource source).bind fun nodes => render surface nodes data

end WalletScreens.Template

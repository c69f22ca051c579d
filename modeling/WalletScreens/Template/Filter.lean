import WalletScreens.Style.Output
import WalletScreens.Template.Token
import WalletScreens.Template.Value
import WalletScreens.Text.Column
import WalletScreens.Text.Uppercase
import WalletScreens.Theme.Mode

/-!
The filters a template can send a value through.

A filter converts its arguments from left to right before it counts them.  Only `style` looks
at the theme, and it does so last.
-/

namespace WalletScreens.Template

open Style Text

/-- The kind that a fault is reported as.  A style outside of every theme is an operation that is
not valid, like others. -/
def Fault.kind : Fault → String
  | .templateNotFound => "TemplateNotFound"
  | .malformed => "SyntaxError"
  | .badEscape => "BadEscape"
  | .unknownFilter => "UnknownFilter"
  | .missingArgument => "MissingArgument"
  | .tooManyArguments => "TooManyArguments"
  | .invalidOperation | .themeless => "InvalidOperation"
  | .undefinedValue => "UndefinedError"
  | .cannotUnpack => "CannotUnpack"

/-- What is reported beside the kind.  Only a style says why it could not be applied. -/
def Fault.message? : Fault → Option String
  | .themeless => some Theme.ThemeFault.noProvider.message
  | _ => none

/-- Where a template is rendered: how styles show, the styles in scope, if any, and whether what it
emits is escaped. -/
structure Surface where
  rendition : Rendition
  styles : Option Sheet
  escapes : Bool := false

inductive Filter where
  | style
  | newline
  | truncateAt
  | padRight
  | padLeft
  | upper
deriving DecidableEq, Repr

namespace Filter

/-- The filters by their names.  Of those that every template engine brings along `upper` alone is
here; the others are unknown. -/
def ofName? (name : String) : Option Filter :=
  if name = "style" then some .style
  else if name = "nl" then some .newline
  else if name = "truncate_at" then some .truncateAt
  else if name = "pad_right" then some .padRight
  else if name = "pad_left" then some .padLeft
  else if name = "upper" then some .upper
  else none

def signedLimit : Nat := 9223372036854775807

/-- What a filter is handed: values, and after them, if any arguments had names, all of those
together. -/
inductive Passed where
  | value (value : Value)
  | named

def text? : Passed → Option String
  | .value value => some value.toText
  | .named => none

/-- A column count: a whole number from zero on, however it is written, or a truth value. -/
def columns? : Passed → Option Nat
  | .value (.whole value) => if 0 ≤ value ∧ value ≤ wordLimit then some value.toNat else none
  | .value (.bool value) => some (if value then 1 else 0)
  | .value (.decimal value) =>
      match value.whole? with
      | some whole =>
          if 0 ≤ whole ∧ whole ≤ signedLimit + 1 then some (min whole.toNat signedLimit) else none
      | none => none
  | _ => none

def sole (rest : List Passed) (result : Except Fault String) : Except Fault String :=
  if rest.isEmpty then result else .error .tooManyArguments

def applyOne {α : Type} (convert? : Passed → Option α) (apply : α → Except Fault String) :
    List Passed → Except Fault String
  | [] => .error .missingArgument
  | passed :: rest =>
      match convert? passed with
      | some argument => sole rest (apply argument)
      | none => .error .invalidOperation

/-- The text in a named style; an error outside of every theme. -/
def applyStyle (surface : Surface) (name text : String) : Except Fault String :=
  match surface.styles with
  | some sheet => .ok (sheet.write surface.rendition name text)
  | none => .error .themeless

def apply (surface : Surface) (filter : Filter) (subject : Value) (passed : List Passed) :
    Except Fault String :=
  let text := subject.toText
  match filter with
  | .style => applyOne text? (fun name => applyStyle surface name text) passed
  | .newline => sole passed (.ok (text ++ "\n"))
  | .truncateAt => applyOne columns? (fun columns => .ok (truncate text columns)) passed
  | .padRight => applyOne columns? (fun columns => .ok (Text.padRight text columns)) passed
  | .padLeft => applyOne columns? (fun columns => .ok (Text.padLeft text columns)) passed
  | .upper => sole passed (.ok (Text.upper text))

end Filter

end WalletScreens.Template

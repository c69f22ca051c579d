import WalletScreens.Json.Value
import WalletScreens.Number.Shortest
import WalletScreens.Template.Numeral
import WalletScreens.Text.Markup
import WalletScreens.Text.Quoted

/-!
Values inside templates: those of the data, `undefined` for what the data does not have, markup
that a template has made itself, and the functions that every template knows.

A value has a truth, which conditions test, and a text, which is what a template writes for it.  A
template that escapes writes signs of markup in it by name, except in what is markup already.
-/

namespace WalletScreens.Template

open Number Text

inductive Value where
  | undefined
  | null
  | bool (value : Bool)
  | whole (value : Int)
  | decimal (value : Binary)
  | infinite (negative : Bool)
  | text (value : String)
  | markup (value : String)
  | list (items : List Value)
  | record (fields : List (String × Value))
  | function (name : String)

namespace Value

mutual

def ofJson : Json.Value → Value
  | .null => .null
  | .bool value => .bool value
  | .natural value => .whole value
  | .negative value => .whole value
  | .decimal value => .decimal value
  | .text value => .text value
  | .list items => .list (ofItems items)
  | .record fields => .record (ofFields fields)

def ofItems : List Json.Value → List Value
  | [] => []
  | item :: items => ofJson item :: ofItems items

def ofFields : List (String × Json.Value) → List (String × Value)
  | [] => []
  | (name, value) :: fields => (name, ofJson value) :: ofFields fields

end

def ofNumeral : Numeral → Value
  | .whole value => .whole value
  | .decimal value => .decimal value
  | .infinite => .infinite false

/-- Nothing, null, false, zero and everything empty are false. -/
def isTrue : Value → Bool
  | .undefined => false
  | .null => false
  | .bool value => value
  | .whole value => value != 0
  | .decimal value => !value.isZero
  | .infinite _ => true
  | .text value | .markup value => value != ""
  | .list items => !items.isEmpty
  | .record fields => !fields.isEmpty
  | .function _ => true

/-- A field of a record; what is no record has none. -/
def field (value : Value) (name : String) : Value :=
  match value with
  | .record fields => (fields.lookup name).getD .undefined
  | _ => .undefined

def members? : Value → Option (List Value)
  | .list items => some items
  | .record fields => some (fields.map fun field => .text field.1)
  | _ => none

/-- The values one after the other in a value: of a text its characters, and none of nothing. -/
def items? : Value → Option (List Value)
  | .undefined | .null => some []
  | .text value | .markup value => some (value.toList.map fun c => .text (String.singleton c))
  | value => value.members?

def leastMagnitude : Nat := 170141183460469231731687303715884105728

/-- The opposite of a number.  The magnitude of the least number is its own opposite, and what
is greater has none. -/
def opposite? : Value → Option Value
  | .whole value =>
      if value < leastMagnitude then some (.whole (-value))
      else if value = leastMagnitude then some (.whole value)
      else none
  | .decimal value => some (.decimal value.neg)
  | .infinite negative => some (.infinite !negative)
  | _ => none

/-- A decimal inside a list or record is positional from 10 ^ -4 to below 10 ^ 16; on its own
it always is. -/
def nestedDecimalText (value : Binary) : String :=
  let (num, den) := value.ratio
  let digits :=
    if num = 0 ∨ (den ≤ num * 10000 ∧ num < den * 10000000000000000) then
      withPoint (value.shortest .double).positional
    else (value.shortest .double).scientific
  value.signed digits

def boolText : Bool → String
  | true => "True"
  | false => "False"

mutual

def nestedText : Value → String
  | .undefined => "undefined"
  | .null => "None"
  | .bool value => boolText value
  | .whole value => toString value
  | .decimal value => nestedDecimalText value
  | .infinite negative => if negative then "-inf" else "inf"
  | .text value | .markup value => shownText value
  | .list items => "[" ++ ", ".intercalate (nestedTexts items) ++ "]"
  | .record fields => "\x7b" ++ ", ".intercalate (nestedFields fields) ++ "\x7d"
  | .function name => "minijinja::functions::builtins::" ++ name

def nestedTexts : List Value → List String
  | [] => []
  | item :: items => nestedText item :: nestedTexts items

def nestedFields : List (String × Value) → List String
  | [] => []
  | (name, value) :: fields => (shownText name ++ ": " ++ nestedText value) :: nestedFields fields

end

def toText : Value → String
  | .undefined => ""
  | .text value | .markup value => value
  | .decimal value => value.toPointedText .double
  | value => nestedText value

/-- What a template that escapes writes for a value.  No sign of markup is in the text of what is
not defined, null, a truth value or a number. -/
def toMarkup (value : Value) : String :=
  match value with
  | .markup content => content
  | .undefined | .null | .bool _ | .whole _ | .decimal _ | .infinite _ => value.toText
  | .text _ | .list _ | .record _ | .function _ => escapeMarkup value.toText

@[simp] theorem toText_text (value : String) : (Value.text value).toText = value := rfl

@[simp] theorem toMarkup_text (value : String) :
    (Value.text value).toMarkup = escapeMarkup value := rfl

@[simp] theorem isTrue_null : Value.null.isTrue = false := rfl

@[simp] theorem isTrue_text (value : String) : (Value.text value).isTrue = (value != "") := rfl

@[simp] theorem isTrue_bool (value : Bool) : (Value.bool value).isTrue = value := rfl

end Value

end WalletScreens.Template

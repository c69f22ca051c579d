import WalletScreens.Screen.Canvas
import WalletScreens.Text.Column

/-!
The small parts of a screen: lines, buttons, frames and rules.
-/

namespace WalletScreens.Screen

def rule (c : Char) (count : Nat) : String :=
  String.ofList (List.replicate count c)

structure InfoLine where
  label : String
  content : String
  large : Bool := false
deriving DecidableEq, Repr

def InfoLine.render (line : InfoLine) (canvas : Canvas) : Except RenderFault String :=
  canvas.template "info_line"
    [("label", .text line.label), ("content", .text line.content),
      ("content_style", .text (if line.large then "info.large" else "info.content"))]

structure Headline where
  text : String
deriving DecidableEq, Repr

def Headline.render (headline : Headline) (canvas : Canvas) : Except RenderFault String :=
  canvas.template "headline" [("text", .text headline.text)]

structure Subheading where
  text : String
deriving DecidableEq, Repr

def Subheading.render (subheading : Subheading) (canvas : Canvas) : Except RenderFault String :=
  canvas.template "subheading" [("text", .text subheading.text)]

structure Button where
  label : String
  disabled : Bool := false
deriving DecidableEq, Repr

def Button.render (button : Button) (canvas : Canvas) : Except RenderFault String :=
  canvas.template "button"
    [("label", .text button.label),
      ("style_name", .text (if button.disabled then "button.disabled" else "button"))]

/-- Buttons in a row that ends in the last column. -/
structure ButtonRow where
  buttons : List Button
  width : Nat
deriving DecidableEq, Repr

def ButtonRow.render (row : ButtonRow) (canvas : Canvas) : Except RenderFault String := do
  let buttons ← row.buttons.mapM fun button => button.render canvas
  return Text.padLeft ("  ".intercalate buttons) row.width

structure ErrorCard where
  message : String
deriving DecidableEq, Repr

def ErrorCard.render (card : ErrorCard) (canvas : Canvas) : Except RenderFault String :=
  let line := rule '─' (Text.measure card.message + 2)
  canvas.template "error_card"
    [("top", .text ("┌" ++ line ++ "┐")), ("bottom", .text ("└" ++ line ++ "┘")),
      ("message", .text card.message)]

structure Divider where
  width : Nat
deriving DecidableEq, Repr

def Divider.render (divider : Divider) (canvas : Canvas) : Except RenderFault String :=
  canvas.template "divider" [("line", .text (rule '─' divider.width))]

structure Logo where
  large : Bool := false
deriving DecidableEq, Repr

def Logo.render (logo : Logo) (canvas : Canvas) : Except RenderFault String :=
  canvas.template "logo_group" [("name_style", .text (if logo.large then "headline" else "logo"))]

structure FormField where
  label : String
  placeholder : String
  value : String := ""
  required : Bool := true
deriving DecidableEq, Repr

def FormField.render (field : FormField) (canvas : Canvas) : Except RenderFault String :=
  canvas.template "form_field"
    [("label", .text field.label), ("placeholder", .text field.placeholder),
      ("value", .text field.value), ("required", .bool field.required)]

end WalletScreens.Screen

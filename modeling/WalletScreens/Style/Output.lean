import WalletScreens.Style.Sheet

/-!
Output modes: whether styles are written as escape sequences, left out, or shown as tags.
-/

namespace WalletScreens.Style

inductive OutputMode where
  | auto
  | term
  | text
  | termDebug
deriving DecidableEq, Repr

namespace OutputMode

def name : OutputMode → String
  | .auto => "auto"
  | .term => "term"
  | .text => "text"
  | .termDebug => "term-debug"

def ofName? (name : String) : Option OutputMode :=
  if name = "auto" then some .auto
  else if name = "term" then some .term
  else if name = "text" then some .text
  else if name = "term-debug" then some .termDebug else none

/-- Reads a mode; the fault is a whole message. -/
def parse (text : String) : Except String OutputMode :=
  match ofName? text with
  | some mode => .ok mode
  | none =>
      .error ("unknown output mode '" ++ text ++ "' (expected auto, term, text, or term-debug)")

/-- On a terminal that shows colours or not, which only `auto` asks for. -/
def usesColor (terminal : Bool) : OutputMode → Bool
  | .auto => terminal
  | .term => true
  | .text | .termDebug => false

def isDebug : OutputMode → Bool
  | .termDebug => true
  | _ => false

end OutputMode

/-- How styles show: as escape sequences, not at all, or as tags. -/
inductive Rendition where
  | colored
  | plain
  | tagged
deriving DecidableEq, Repr

namespace Rendition

def isColored : Rendition → Bool
  | .colored => true
  | .plain | .tagged => false

def isTagged : Rendition → Bool
  | .tagged => true
  | .colored | .plain => false

end Rendition

/-- What a mode comes to on a terminal that shows colours or not. -/
def OutputMode.rendition (terminal : Bool) (output : OutputMode) : Rendition :=
  if output.isDebug then .tagged else if output.usesColor terminal then .colored else .plain

@[simp] theorem OutputMode.isTagged_rendition (terminal : Bool) (output : OutputMode) :
    (output.rendition terminal).isTagged = output.isDebug := by
  cases output <;> cases terminal <;> rfl

@[simp] theorem OutputMode.isColored_rendition (terminal : Bool) (output : OutputMode) :
    (output.rendition terminal).isColored = output.usesColor terminal := by
  cases output <;> cases terminal <;> rfl

/-- The text in a named style, as templates write it. -/
def Sheet.write (sheet : Sheet) (rendition : Rendition) (name text : String) : String :=
  if rendition.isTagged then sheet.applyTagged name text
  else sheet.apply name text rendition.isColored

end WalletScreens.Style

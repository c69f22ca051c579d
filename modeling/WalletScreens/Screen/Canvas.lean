import WalletScreens.Screen.Layout
import WalletScreens.Theme.Catalog

/-!
What a component draws with.

A renderer is an output mode and a library of templates, and knows no theme.  A canvas adds the
theme of the pass, which components are handed, and the themes provided around it, the innermost
of which is the one that styles inside templates come from.

Whether the terminal shows colours is asked twice: when a renderer is made, for the styles inside
its templates, and whenever a component styles a text itself.
-/

namespace WalletScreens.Screen

open Style Template Theme

inductive RenderFault where
  | template (fault : Template.Fault)
  | theme (fault : ThemeFault)
  | styles (fault : SheetFault)
deriving DecidableEq, Repr

/-- With the answer of the terminal at the time that the renderer was made. -/
structure Renderer where
  output : OutputMode
  terminal : Bool
  library : Library

namespace Renderer

/-- A renderer with the built-in templates.  Both themes of the catalog have to be sound. -/
def withOutput (output : OutputMode) (terminal : Bool) : Except RenderFault Renderer := do
  Catalog.all.forM fun definition =>
    match definition.validate with
    | .ok () => Except.ok ()
    | .error fault => .error (.styles fault)
  match Layout.library with
  | .ok library => return ⟨output, terminal, library⟩
  | .error fault => .error (.template fault)

def addTemplate (renderer : Renderer) (name source : String) :
    Except RenderFault Renderer :=
  match renderer.library.add name source with
  | .ok library => .ok { renderer with library }
  | .error fault => .error (.template fault)

/-- How styles show inside the templates of a renderer. -/
def rendition (renderer : Renderer) : Rendition :=
  renderer.output.rendition renderer.terminal

def surface (renderer : Renderer) (ambient : List Definition) : Surface where
  rendition := renderer.rendition
  styles := ambient.head?.map (·.styles)

def render (renderer : Renderer) (ambient : List Definition) (name : String)
    (data : Json.Value) : Except RenderFault String :=
  (renderer.library.renderNamed (renderer.surface ambient) name data).mapError .template

def renderSource (renderer : Renderer) (ambient : List Definition) (source : String)
    (data : Json.Value) : Except RenderFault String :=
  (Template.renderSource (renderer.surface ambient) source data).mapError .template

end Renderer

/-- With the answer of the terminal at the time that something is drawn. -/
structure Canvas where
  renderer : Renderer
  theme : Definition
  ambient : List Definition
  terminal : Bool

namespace Canvas

def mode (canvas : Canvas) : Mode :=
  canvas.theme.mode

def template (canvas : Canvas) (name : String) (fields : List (String × Json.Value)) :
    Except RenderFault String :=
  canvas.renderer.render canvas.ambient name (.record fields)

/-- The text in a named style of the theme that the canvas is handed. -/
def style (canvas : Canvas) (name text : String) : String :=
  let styles := canvas.theme.styles
  match canvas.renderer.output with
  | .termDebug => styles.applyTagged name text
  | output => styles.apply name text (output.usesColor canvas.terminal)

/-- The terminal still says what it said when the renderer was made, if that matters. -/
def Steady (canvas : Canvas) : Prop :=
  canvas.renderer.output = .auto → canvas.terminal = canvas.renderer.terminal

namespace Steady

variable {canvas : Canvas} (steady : canvas.Steady)
include steady

theorem rendition_eq :
    canvas.renderer.rendition = canvas.renderer.output.rendition canvas.terminal := by
  unfold Renderer.rendition
  cases output : canvas.renderer.output with
  | auto => rw [steady output]
  | term | text | termDebug => rfl

/-- Then a component styles as a template does that is handed the same styles. -/
theorem style_eq_write :
    canvas.style = canvas.theme.styles.write canvas.renderer.rendition := by
  funext name text
  rw [steady.rendition_eq]
  unfold style Sheet.write
  rw [OutputMode.isTagged_rendition, OutputMode.isColored_rendition]
  cases canvas.renderer.output <;> rfl

end Steady

end Canvas

end WalletScreens.Screen

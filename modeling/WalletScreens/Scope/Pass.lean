import WalletScreens.Scope.Stage
import WalletScreens.Screen.Component

/-!
A pass renders a tree of components under one theme.

The theme is resolved when the pass starts and handed to every component, so a toggle requested
in the middle of it shows up only in the next pass.
-/

namespace WalletScreens.Scope

open Screen Theme

/-- A component that shows what it is given: a styled text and, for a colour role, what the pass
and its surroundings are.  It may ask for a toggle before it draws. -/
structure Probe where
  style : String := "primary"
  text : String := "probe"
  role : Option String := none
  toggle : Bool := false
  lines : Bool := false
deriving DecidableEq, Repr

/-- What a scope renders.  The children of a probe follow it, on lines of their own or not. -/
inductive Tree where
  | component (component : Component)
  | template (name : String) (data : Json.Value)
  | probe (probe : Probe) (children : List Tree)

/-- The mode and theme of a pass, seen against the provided themes. -/
def describePass (theme : Definition) (ambient : List Definition) (role : String) : String :=
  let color := match theme.palette.color role with
    | some color => color.css
    | none => "none"
  let same := if ambient.head? = some theme then "true" else "false"
  "<" ++ theme.mode.name ++ " " ++ color ++ " same=" ++ same ++ " depth=" ++
    toString ambient.length ++ ">"

def Probe.draw (probe : Probe) (canvas : Canvas) : String :=
  canvas.style probe.style probe.text ++
    match probe.role with
    | some role => describePass canvas.theme canvas.ambient role
    | none => ""

def Stage.canvas (stage : Stage) (renderer : Renderer) (theme : Definition) : Canvas :=
  ⟨renderer, theme, stage.ambient, stage.terminal⟩

mutual

/-- Draws a tree.  The first fault ends the pass; what was asked for before it stays done. -/
def Tree.render (renderer : Renderer) (theme : Definition) :
    Tree → Stage → Except RenderFault String × Stage
  | .component part, stage => (part.render (stage.canvas renderer theme), stage)
  | .template name data, stage => (renderer.render stage.ambient name data, stage)
  | .probe node children, stage =>
      match stage.useTheme with
      | .error fault => (.error (.theme fault), stage)
      | .ok _ =>
          let stage := if node.toggle then stage.requestToggle else stage
          let shown := node.draw (stage.canvas renderer theme)
          match Tree.renderAll renderer theme children stage with
          | (.ok parts, stage) =>
              (.ok (shown ++ (if node.lines then "\n" else "").intercalate parts), stage)
          | (.error fault, stage) => (.error fault, stage)

def Tree.renderAll (renderer : Renderer) (theme : Definition) :
    List Tree → Stage → Except RenderFault (List String) × Stage
  | [], stage => (.ok [], stage)
  | tree :: rest, stage =>
      match Tree.render renderer theme tree stage with
      | (.error fault, stage) => (.error fault, stage)
      | (.ok part, stage) =>
          match Tree.renderAll renderer theme rest stage with
          | (.ok parts, stage) => (.ok (part :: parts), stage)
          | (.error fault, stage) => (.error fault, stage)

end

mutual

/-- Drawing a tree leaves the provided themes alone, also where it fails. -/
theorem Tree.ambient_render (renderer : Renderer) (theme : Definition) :
    ∀ (tree : Tree) (stage : Stage), (tree.render renderer theme stage).2.ambient = stage.ambient
  | .component _, stage => by simp [Tree.render]
  | .template .., stage => by simp [Tree.render]
  | .probe node children, stage => by
      rw [Tree.render]
      split
      · rfl
      · have kept := Tree.ambient_renderAll renderer theme children
          (if node.toggle then stage.requestToggle else stage)
        dsimp only
        split <;> rename_i drawn <;> rw [drawn] at kept <;> rw [show _ = _ from kept] <;>
          split <;> simp

theorem Tree.ambient_renderAll (renderer : Renderer) (theme : Definition) :
    ∀ (trees : List Tree) (stage : Stage),
      (Tree.renderAll renderer theme trees stage).2.ambient = stage.ambient
  | [], stage => by simp [Tree.renderAll]
  | tree :: rest, stage => by
      rw [Tree.renderAll]
      have first := Tree.ambient_render renderer theme tree stage
      split
      · rename_i drawn
        rw [drawn] at first
        exact first
      · rename_i after drawn
        rw [drawn] at first
        have later := Tree.ambient_renderAll renderer theme rest after
        split <;> rename_i drawnRest <;> rw [drawnRest] at later <;> exact later.trans first

end

structure Frame where
  theme : Definition
  revision : Nat
  output : String

def Frame.mode (frame : Frame) : Mode :=
  frame.theme.mode

/-- A pass under the theme of a scope, which `draw` is handed.  The theme and the revision are those
at its start, whatever happens to the scope while it lasts. -/
def Stage.pass (stage : Stage) (scope : ScopeState)
    (draw : Definition → Stage → Except RenderFault String × Stage) :
    Except RenderFault Frame × Stage :=
  let (output, stage) := stage.providing scope.theme (draw scope.theme)
  (output.map (⟨scope.theme, scope.revision, ·⟩), stage)

def Stage.renderScope (stage : Stage) (renderer : Renderer) (scope : ScopeState) (tree : Tree) :
    Except RenderFault Frame × Stage :=
  stage.pass scope fun theme => tree.render renderer theme

def Stage.passCanvas (stage : Stage) (renderer : Renderer) (scope : ScopeState) : Canvas :=
  ⟨renderer, scope.theme, scope.theme :: stage.ambient, stage.terminal⟩

/-- A component of the library asks for nothing, so a pass over it leaves the stage as it was. -/
theorem Stage.renderScope_component (stage : Stage) (renderer : Renderer) (scope : ScopeState)
    (part : Component) :
    stage.renderScope renderer scope (.component part) =
      ((part.render (stage.passCanvas renderer scope)).map (⟨scope.theme, scope.revision, ·⟩),
        stage) := by
  simp [renderScope, pass, providing, Tree.render, canvas, passCanvas]

end WalletScreens.Scope

import WalletScreens.Proofs.Scope.Ambient
import WalletScreens.Scope.Pass

/-!
Components of any kind.

A component is a program: it looks at the canvas that it is drawn on, asks for toggles, draws
other components on the same canvas, and goes on with what it was given so far.  The trees of the
library are such programs.
-/

namespace WalletScreens.Scope

open Screen Theme

/-- What a component does, step by step, while it is drawn. -/
inductive Script where
  | finish (drawn : Except RenderFault String)
  | look (next : Canvas → Script)
  | toggle (next : Script)
  | child (part : Script) (next : Except RenderFault String → Script)

namespace Script

/-- Draws a component.  Each look is at the canvas as it is at that time. -/
def run (renderer : Renderer) (theme : Definition) :
    Script → Stage → Except RenderFault String × Stage
  | .finish drawn, stage => (drawn, stage)
  | .look next, stage => (next (stage.canvas renderer theme)).run renderer theme stage
  | .toggle next, stage => next.run renderer theme stage.requestToggle
  | .child part next, stage =>
      let (drawn, stage) := part.run renderer theme stage
      (next drawn).run renderer theme stage

/-- The component without its requests to toggle and those of the components in it. -/
def quiet : Script → Script
  | .finish drawn => .finish drawn
  | .look next => .look fun canvas => (next canvas).quiet
  | .toggle next => next.quiet
  | .child part next => .child part.quiet fun drawn => (next drawn).quiet

/-- What a component draws where each look is at one and the same canvas. -/
def drawnOn (canvas : Canvas) : Script → Except RenderFault String
  | .finish drawn => drawn
  | .look next => (next canvas).drawnOn canvas
  | .toggle next => next.drawnOn canvas
  | .child part next => (next (part.drawnOn canvas)).drawnOn canvas

/-- How many toggles are asked for where each look is at one and the same canvas. -/
def requests (canvas : Canvas) : Script → Nat
  | .finish _ => 0
  | .look next => (next canvas).requests canvas
  | .toggle next => next.requests canvas + 1
  | .child part next => part.requests canvas + (next (part.drawnOn canvas)).requests canvas

variable {renderer : Renderer} {theme : Definition} {canvas : Canvas}

@[simp] theorem drawnOn_quiet (script : Script) :
    script.quiet.drawnOn canvas = script.drawnOn canvas := by
  induction script with
  | finish drawn => rfl
  | look next ih => exact ih canvas
  | toggle next ih => exact ih
  | child part next partIH nextIH =>
      simp only [quiet, drawnOn, partIH]
      exact nextIH _

@[simp] theorem requests_quiet (script : Script) : script.quiet.requests canvas = 0 := by
  induction script with
  | finish drawn => rfl
  | look next ih => exact ih canvas
  | toggle next ih => exact ih
  | child part next partIH nextIH =>
      simp only [quiet, requests, partIH, Nat.zero_add]
      exact nextIH _

theorem canvas_requestToggle (stage : Stage) :
    stage.requestToggle.canvas renderer theme = stage.canvas renderer theme := by
  rw [Stage.canvas, Stage.canvas, Stage.ambient_requestToggle, Stage.terminal_requestToggle]

theorem canvas_requestToggle_iterate (count : Nat) (stage : Stage) :
    (Stage.requestToggle^[count] stage).canvas renderer theme = stage.canvas renderer theme := by
  induction count generalizing stage with
  | zero => rfl
  | succ count ih => rw [Function.iterate_succ_apply, ih, canvas_requestToggle]

/-- No request changes the canvas, so a component is drawn as if nothing had been asked for, and
all that it leaves behind is what it asked for. -/
theorem run_eq (script : Script) (stage : Stage) :
    script.run renderer theme stage =
      (script.drawnOn (stage.canvas renderer theme),
        Stage.requestToggle^[script.requests (stage.canvas renderer theme)] stage) := by
  induction script generalizing stage with
  | finish drawn => rfl
  | look next ih => exact ih _ stage
  | toggle next ih => rw [run, ih, canvas_requestToggle]; rfl
  | child part next partIH nextIH =>
      rw [run, partIH]
      dsimp only
      rw [nextIH, canvas_requestToggle_iterate, drawnOn, requests,
        Nat.add_comm, Function.iterate_add_apply]

end Script

end WalletScreens.Scope

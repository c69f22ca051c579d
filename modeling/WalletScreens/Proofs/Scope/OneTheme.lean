import WalletScreens.Proofs.Scope.Announcement
import WalletScreens.Proofs.Scope.Script

/-!
One theme for a whole pass.

Whatever is asked for while a scope is rendered, all of it is drawn under the theme of the scope at
the start.  The requests take effect one after the other, and show in the next pass.
-/

namespace WalletScreens.Scope

open Screen Theme

mutual

/-- A tree of the library as a component like any other. -/
def Tree.script : Tree → Script
  | .component part => .look fun canvas => .finish (part.render canvas)
  | .template name data =>
      .look fun canvas => .finish (canvas.renderer.render canvas.ambient name data)
  | .probe node children =>
      .look fun canvas =>
        match canvas.ambient.head? with
        | none => .finish (.error (.theme .noProvider))
        | some _ =>
            let drawing := Script.look fun canvas =>
              Tree.scripts children fun parts =>
                .finish (.ok (node.draw canvas ++
                  (if node.lines then "\n" else "").intercalate parts))
            if node.toggle then .toggle drawing else drawing

/-- Trees drawn in order, up to the first fault, and what comes after them. -/
def Tree.scripts : List Tree → (List String → Script) → Script
  | [], next => next []
  | tree :: rest, next =>
      .child tree.script fun drawn =>
        match drawn with
        | .error fault => .finish (.error fault)
        | .ok part => Tree.scripts rest fun parts => next (part :: parts)

end

mutual

/-- The tree without its requests to toggle. -/
def Tree.quiet : Tree → Tree
  | .component part => .component part
  | .template name data => .template name data
  | .probe node children => .probe { node with toggle := false } (Tree.quietAll children)

def Tree.quietAll : List Tree → List Tree
  | [] => []
  | tree :: rest => tree.quiet :: Tree.quietAll rest

end

mutual

theorem Tree.script_quiet : ∀ tree : Tree, tree.quiet.script = tree.script.quiet
  | .component _ => rfl
  | .template .. => rfl
  | .probe node children => by
      simp only [Tree.quiet, Tree.script, Script.quiet, Script.look.injEq]
      funext canvas
      cases canvas.ambient.head? with
      | none => rfl
      | some theme =>
          have drawing : ∀ canvas : Canvas, Tree.scripts (Tree.quietAll children) (fun parts =>
              .finish (.ok (node.draw canvas ++
                (if node.lines then "\n" else "").intercalate parts))) =
              (Tree.scripts children fun parts =>
                .finish (.ok (node.draw canvas ++
                  (if node.lines then "\n" else "").intercalate parts))).quiet :=
            fun canvas => Tree.scripts_quietAll children fun parts =>
              .finish (.ok (node.draw canvas ++
                (if node.lines then "\n" else "").intercalate parts))
          cases asks : node.toggle <;>
            simp only [Bool.false_eq_true, if_false, if_true, Script.quiet, Script.look.injEq] <;>
            exact funext drawing

theorem Tree.scripts_quietAll : ∀ (trees : List Tree) (next : List String → Script),
    Tree.scripts (Tree.quietAll trees) (fun parts => (next parts).quiet) =
      (Tree.scripts trees next).quiet
  | [], _ => rfl
  | tree :: rest, next => by
      simp only [Tree.quietAll, Tree.scripts, Script.quiet, Script.child.injEq]
      refine ⟨Tree.script_quiet tree, funext fun drawn => ?_⟩
      cases drawn with
      | error fault => rfl
      | ok part => exact Tree.scripts_quietAll rest fun parts => next (part :: parts)

end

section

variable (renderer : Renderer) (theme : Definition)

mutual

theorem Tree.run_script : ∀ (tree : Tree) (stage : Stage),
    tree.script.run renderer theme stage = tree.render renderer theme stage
  | .component _, _ => by simp only [Tree.script, Script.run, Tree.render]
  | .template .., _ => by simp only [Tree.script, Script.run, Tree.render, Stage.canvas]
  | .probe node children, stage => by
      have drawing := Tree.run_scripts children
      simp only [Tree.script, Script.run, Tree.render, Stage.useTheme, Stage.canvas]
      cases stage.ambient.head? with
      | none => rfl
      | some provided =>
          cases asks : node.toggle <;>
            simp only [Bool.false_eq_true, if_false, if_true, Script.run, drawing] <;>
            rfl

theorem Tree.run_scripts : ∀ (trees : List Tree) (next : List String → Script) (stage : Stage),
    (Tree.scripts trees next).run renderer theme stage =
      match Tree.renderAll renderer theme trees stage with
      | (.ok parts, stage) => (next parts).run renderer theme stage
      | (.error fault, stage) => (.error fault, stage)
  | [], _, _ => by simp only [Tree.scripts, Tree.renderAll]
  | tree :: rest, next, stage => by
      simp only [Tree.scripts, Script.run, Tree.renderAll, Tree.run_script tree stage]
      rcases tree.render renderer theme stage with ⟨drawn, after⟩
      cases drawn with
      | error fault => rfl
      | ok part =>
          simp only [Tree.run_scripts rest]
          rcases Tree.renderAll renderer theme rest after with ⟨drawnRest, last⟩
          cases drawnRest <;> rfl

end

end

namespace Stage

/-- Renders a component of any kind under the theme of a scope. -/
def renderScript (stage : Stage) (renderer : Renderer) (scope : ScopeState) (script : Script) :
    Except RenderFault Frame × Stage :=
  stage.pass scope fun theme => script.run renderer theme

variable (stage : Stage) (renderer : Renderer) (scope : ScopeState)

theorem renderScript_script (tree : Tree) :
    stage.renderScript renderer scope tree.script = stage.renderScope renderer scope tree :=
  congrArg (stage.pass scope) (funext fun theme => funext (Tree.run_script renderer theme tree))

theorem providing_requestToggle (theme : Definition) (drawn : Except RenderFault String)
    (count : Nat) :
    stage.providing theme (fun within => (drawn, requestToggle^[count] within)) =
      (drawn, requestToggle^[count] stage) := by
  have within := requestToggle_iterate_under count stage (theme :: stage.ambient)
  have kept := ambient_requestToggle_iterate count stage
  simp only [under] at within
  simp only [providing, within, List.length_cons, Nat.add_sub_cancel_left, List.drop_succ_cons,
    List.drop_zero]
  rw [← kept]

/-- Only what `body` does on the stage that it is handed matters. -/
theorem providing_congr {α : Type} {theme : Definition} {body other : Stage → α × Stage}
    (same : body { stage with ambient := theme :: stage.ambient } =
      other { stage with ambient := theme :: stage.ambient }) :
    stage.providing theme body = stage.providing theme other := by
  rw [providing, providing, same]

/-- A pass draws on the canvas of its start from beginning to end.  What is asked for while it lasts
is all that it leaves behind. -/
theorem renderScript_eq (script : Script) :
    stage.renderScript renderer scope script =
      ((script.drawnOn (stage.passCanvas renderer scope)).map (⟨scope.theme, scope.revision, ·⟩),
        requestToggle^[script.requests (stage.passCanvas renderer scope)] stage) := by
  have drawn : stage.providing scope.theme (script.run renderer scope.theme) =
      stage.providing scope.theme fun within =>
        (script.drawnOn (stage.passCanvas renderer scope),
          requestToggle^[script.requests (stage.passCanvas renderer scope)] within) :=
    providing_congr stage (script.run_eq _)
  rw [renderScript, pass, drawn, providing_requestToggle]

/-- Where the active target is a scope in the registry's mode, as in all registries that a program
can reach, each request flips both modes, and so does each answer of an observer. -/
theorem flips_requestToggle_iterate {id : SubscriptionId} {revision : Nat}
    {older : List (SubscriptionId × Target)}
    (active : stage.registry.targets = (id, .scope ⟨stage.registry.mode, revision⟩) :: older)
    (count : Nat) :
    ∃ answers, (requestToggle^[count] stage).answers = stage.answers + answers ∧
      (requestToggle^[count] stage).registry.mode =
        Mode.toggled^[count + answers] stage.registry.mode ∧
      (requestToggle^[count] stage).registry.targets =
        (id, .scope ⟨Mode.toggled^[count + answers] stage.registry.mode,
          revision + (count + answers)⟩) :: older := by
  obtain ⟨answers, announced⟩ := announced_requestToggle_iterate count stage
  have mounted : stage.registry.isMounted = true := by rw [Registry.isMounted, active]; rfl
  have turned := announced.turned
  rw [flipsOf_mounted mounted] at turned
  exact ⟨answers, announced.answered, turned.of_scope active⟩

/-- Requests to toggle in the middle of a pass do not show in it: it is drawn on the canvas of its
start, and gives what it gives without them.  They are all done after it. -/
theorem toggles_show_after_pass (script : Script) :
    let canvas := stage.passCanvas renderer scope
    let noisy := stage.renderScript renderer scope script
    let quiet := stage.renderScript renderer scope script.quiet
    (∀ tree : Tree, tree.script = script →
      stage.renderScope renderer scope tree = noisy ∧
        stage.renderScope renderer scope tree.quiet = quiet) ∧
    noisy.1 = quiet.1 ∧
    noisy.1 = (script.drawnOn canvas).map (⟨scope.theme, scope.revision, ·⟩) ∧
    quiet.2 = stage ∧
    noisy.2 = requestToggle^[script.requests canvas] stage ∧
    ∀ id revision older,
      stage.registry.targets = (id, .scope ⟨stage.registry.mode, revision⟩) :: older →
      ∃ answers, noisy.2.answers = stage.answers + answers ∧
        let flips := script.requests canvas + answers
        noisy.2.registry.mode = Mode.toggled^[flips] stage.registry.mode ∧
        noisy.2.registry.targets =
          (id, .scope ⟨Mode.toggled^[flips] stage.registry.mode, revision + flips⟩) :: older := by
  intro canvas noisy quiet
  have noisyIs : noisy = _ := stage.renderScript_eq renderer scope script
  have quietIs : quiet = _ := stage.renderScript_eq renderer scope script.quiet
  rw [Script.drawnOn_quiet, Script.requests_quiet] at quietIs
  refine ⟨?_, ?_, ?_, ?_, ?_, ?_⟩
  · rintro tree rfl
    have drawn := stage.renderScript_script renderer scope tree
    have drawnQuiet := stage.renderScript_script renderer scope tree.quiet
    rw [Tree.script_quiet] at drawnQuiet
    exact ⟨drawn.symm, drawnQuiet.symm⟩
  · rw [noisyIs, quietIs]
  · rw [noisyIs]
  · rw [quietIs]
    rfl
  · rw [noisyIs]
  · intro id revision older active
    rw [noisyIs]
    exact stage.flips_requestToggle_iterate active _

end Stage

end WalletScreens.Scope

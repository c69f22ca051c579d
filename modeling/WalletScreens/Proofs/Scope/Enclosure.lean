import WalletScreens.Proofs.Scope.Client
import WalletScreens.Proofs.Scope.OneTheme

/-!
Themes provided inside of each other.

A program provides themes around its parts: by itself, through a scope, or for a pass.  Each part
may do so again, and may fail anywhere.  The provided themes are kept in one list, which every part
changes; still each place of the program finds there the themes that are provided around it and no
others.
-/

namespace WalletScreens.Scope

open Screen Theme

namespace Stage

/-- The innermost of the provided themes. -/
def current? (stage : Stage) : Option Definition :=
  stage.ambient.head?

def depth (stage : Stage) : Nat :=
  stage.ambient.length

/-- The stage after an operation of a program that holds all there is in the registry. -/
def asked (stage : Stage) (operation : Operation) : Stage :=
  let client : Client :=
    { stage
      scopes := stage.registry.targets.map (·.1)
      observers := stage.registry.observers.map (·.id) }
  (client.perform operation).stage

theorem ambient_tryToggle (stage : Stage) : stage.tryToggle.2.ambient = stage.ambient := by
  obtain ⟨_, announced⟩ := stage.announced_tryToggle
  exact announced.ambient

theorem ambient_setMode (stage : Stage) (mode : Mode) :
    (stage.setMode mode).ambient = stage.ambient := by
  by_cases same : stage.registry.mode = mode
  · rw [setMode, if_pos same]
  · rcases announced_setMode same with ⟨-, _, announced⟩ | ⟨-, _, announced⟩
    · exact announced.ambient
    · exact announced.ambient

theorem ambient_asked (stage : Stage) (operation : Operation) :
    (stage.asked operation).ambient = stage.ambient := by
  cases operation with
  | mount | observe => rfl
  | drop | dropObserver =>
      unfold asked Client.perform
      dsimp only
      split <;> rfl
  | tryToggle => exact stage.ambient_tryToggle
  | requestToggle => exact stage.ambient_requestToggle
  | toggleThrough id =>
      unfold asked Client.perform
      dsimp only
      split
      · exact stage.ambient_tryToggle
      · rfl
  | setMode mode => exact stage.ambient_setMode mode

end Stage

/-- What a program does.  It looks at the stage, which shows it the scopes of the registry at work,
and may turn to another registry at any time.  After a part around which it has provided a theme it
goes on with what the part ended with, a fault or not. -/
inductive Program where
  | finish (result : Except RenderFault String)
  | look (next : Stage → Program)
  | ask (operation : Operation) (next : Program)
  | turnTo (registry : Registry) (next : Program)
  | provide (theme : Definition) (body : Program) (next : Except RenderFault String → Program)
  | pass (scope : ScopeState) (draw : Definition → Program)
      (next : Except RenderFault Frame → Program)

/-- A place in a run: the themes provided around it, the innermost first, and the stage as it is
there. -/
structure Point where
  around : List Definition
  stage : Stage

namespace Program

def run : Program → Stage → Except RenderFault String × Stage
  | .finish result, stage => (result, stage)
  | .look next, stage => (next stage).run stage
  | .ask operation next, stage => next.run (stage.asked operation)
  | .turnTo registry next, stage => next.run { stage with registry }
  | .provide theme body next, stage =>
      let (result, after) := stage.providing theme body.run
      (next result).run after
  | .pass scope draw next, stage =>
      let (result, after) := stage.pass scope fun theme => (draw theme).run
      (next result).run after

/-- The places that a run comes to, in order. -/
def points : Program → List Definition → Stage → List Point
  | .finish _, around, stage => [⟨around, stage⟩]
  | .look next, around, stage => ⟨around, stage⟩ :: (next stage).points around stage
  | .ask operation next, around, stage =>
      ⟨around, stage⟩ :: next.points around (stage.asked operation)
  | .turnTo registry next, around, stage =>
      ⟨around, stage⟩ :: next.points around { stage with registry }
  | .provide theme body next, around, stage =>
      let (inside, _) := stage.providing theme fun within =>
        (body.points (theme :: around) within, within)
      let (result, after) := stage.providing theme body.run
      ⟨around, stage⟩ :: inside ++ (next result).points around after
  | .pass scope draw next, around, stage =>
      let (inside, _) := stage.providing scope.theme fun within =>
        ((draw scope.theme).points (scope.theme :: around) within, within)
      let (result, after) := stage.pass scope fun theme => (draw theme).run
      ⟨around, stage⟩ :: inside ++ (next result).points around after

theorem ambient_run (program : Program) (stage : Stage) :
    (program.run stage).2.ambient = stage.ambient := by
  induction program generalizing stage with
  | finish result => rfl
  | look next ih => exact ih stage stage
  | ask operation next ih => exact (ih _).trans (stage.ambient_asked operation)
  | turnTo registry next ih => exact ih _
  | provide theme body next bodyIH nextIH =>
      exact (nextIH _ _).trans (stage.ambient_providing theme body.run (bodyIH _))
  | pass scope draw next drawIH nextIH =>
      exact (nextIH _ _).trans
        (stage.ambient_providing scope.theme (draw scope.theme).run (drawIH _ _))

/-- At each place the provided themes are those around it: what a part has provided is gone where
the program goes on. -/
theorem ambient_of_point (program : Program) {around : List Definition} {stage : Stage}
    (provided : stage.ambient = around) :
    ∀ point ∈ program.points around stage, point.stage.ambient = point.around := by
  induction program generalizing around stage with
  | finish result => exact List.forall_mem_singleton.mpr provided
  | look next ih => exact List.forall_mem_cons.mpr ⟨provided, ih stage provided⟩
  | ask operation next ih =>
      exact List.forall_mem_cons.mpr
        ⟨provided, ih ((stage.ambient_asked operation).trans provided)⟩
  | turnTo registry next ih => exact List.forall_mem_cons.mpr ⟨provided, ih provided⟩
  | provide theme body next bodyIH nextIH =>
      have inside := @bodyIH (theme :: around) { stage with ambient := theme :: stage.ambient }
        (congrArg (theme :: ·) provided)
      have left := stage.ambient_providing theme body.run (body.ambient_run _)
      have onward := nextIH (stage.providing theme body.run).1 (left.trans provided)
      exact List.forall_mem_cons.mpr ⟨provided, List.forall_mem_append.mpr ⟨inside, onward⟩⟩
  | pass scope draw next drawIH nextIH =>
      have inside := @drawIH scope.theme (scope.theme :: around)
        { stage with ambient := scope.theme :: stage.ambient }
        (congrArg (scope.theme :: ·) provided)
      have left := stage.ambient_providing scope.theme (draw scope.theme).run
        ((draw scope.theme).ambient_run _)
      have onward := nextIH (stage.pass scope fun theme => (draw theme).run).1
        (left.trans provided)
      exact List.forall_mem_cons.mpr ⟨provided, List.forall_mem_append.mpr ⟨inside, onward⟩⟩

end Program

/-- A component as a part of a program, which goes on with what is drawn. -/
def Script.program (renderer : Renderer) (theme : Definition) :
    Script → (Except RenderFault String → Program) → Program
  | .finish drawn, next => next drawn
  | .look part, next =>
      .look fun stage => (part (stage.canvas renderer theme)).program renderer theme next
  | .toggle part, next => .ask .requestToggle (part.program renderer theme next)
  | .child part onward, next =>
      part.program renderer theme fun drawn => (onward drawn).program renderer theme next

theorem Script.run_program (renderer : Renderer) (theme : Definition) (script : Script)
    (next : Except RenderFault String → Program) (stage : Stage) :
    (script.program renderer theme next).run stage =
      let (drawn, after) := script.run renderer theme stage
      (next drawn).run after := by
  induction script generalizing next stage with
  | finish drawn => rfl
  | look part ih => exact ih _ next stage
  | toggle part ih => exact ih next stage.requestToggle
  | child part onward partIH onwardIH =>
      rw [program, partIH, run]
      exact onwardIH _ next _

/-- The passes over the trees of the library are passes of a program. -/
theorem Stage.renderScope_eq_pass (stage : Stage) (renderer : Renderer) (scope : ScopeState)
    (tree : Tree) :
    stage.renderScope renderer scope tree =
      stage.pass scope fun theme => (tree.script.program renderer theme .finish).run := by
  rw [← renderScript_script, renderScript]
  congr 1
  funext theme within
  rw [Script.run_program]
  rfl

/-- Wherever a run comes to, the provided themes are those around that place of the program: the
theme in use is the innermost of them, none if there are none, and the depth is their number.
Whatever is provided, for a part or for a pass, is taken away after it, and what was provided before
is there again, also where the part or the pass fails. -/
theorem provided_themes_nest (stage : Stage) :
    (∀ program : Program, (program.run stage).2.ambient = stage.ambient ∧
      ∀ point ∈ program.points stage.ambient stage,
        point.stage.current? = point.around.head? ∧
          point.stage.depth = point.around.length ∧ point.stage.ambient = point.around) ∧
      (∀ (theme : Definition) (body : Program),
        (stage.providing theme body.run).2.ambient = stage.ambient) ∧
      (∀ (scope : ScopeState) (draw : Definition → Program),
        (stage.pass scope fun theme => (draw theme).run).2.ambient = stage.ambient) ∧
      ∀ (renderer : Renderer) (scope : ScopeState) (tree : Tree),
        stage.renderScope renderer scope tree =
          stage.pass scope fun theme => (tree.script.program renderer theme .finish).run := by
  refine ⟨fun program => ⟨program.ambient_run stage, fun point member => ?_⟩, ?_, ?_, ?_⟩
  · have provided := program.ambient_of_point rfl point member
    rw [Stage.current?, Stage.depth, provided]
    exact ⟨rfl, rfl, rfl⟩
  · exact fun theme body => stage.ambient_providing theme body.run (body.ambient_run _)
  · exact fun scope draw =>
      stage.ambient_providing scope.theme (draw scope.theme).run ((draw scope.theme).ambient_run _)
  · exact stage.renderScope_eq_pass

/-- A pass in the light theme inside of the dark one.  In it the dark theme is provided again, and
there it asks for a toggle and fails; after the pass the program goes on under the one theme that is
around it. -/
theorem themes_after_failed_pass :
    let failing : Program := .ask .requestToggle (.finish (.error (.theme .noProvider)))
    let program : Program :=
      .provide Catalog.dark
        (.pass ⟨.light, 0⟩ (fun _ => .provide Catalog.dark failing .finish) fun _ =>
          .finish (.ok ""))
        .finish
    let innermost : Point :=
      ⟨[Catalog.dark, Catalog.light, Catalog.dark],
        { ambient := [Catalog.dark, Catalog.light, Catalog.dark] }⟩
    let later : Point :=
      ⟨[Catalog.dark], { ambient := [Catalog.dark], notices := [.toggleIgnored .notMounted] }⟩
    innermost ∈ program.points [] {} ∧ innermost.stage.current? = some Catalog.dark ∧
      innermost.stage.depth = 3 ∧ later ∈ program.points [] {} ∧
      later.stage.current? = some Catalog.dark ∧ later.stage.depth = 1 ∧
      (program.run {}).2.ambient = [] := by
  intro failing program innermost later
  have inside : innermost ∈ program.points [] {} := .tail _ (.tail _ (.tail _ (.head _)))
  have after : later ∈ program.points [] {} :=
    .tail _ (.tail _ (.tail _ (.tail _ (.tail _ (.tail _ (.head _))))))
  obtain ⟨runs, -⟩ := provided_themes_nest {}
  obtain ⟨restored, nests⟩ := runs program
  obtain ⟨innermostTheme, innermostDepth, -⟩ := nests innermost inside
  obtain ⟨laterTheme, laterDepth, -⟩ := nests later after
  exact ⟨inside, innermostTheme, innermostDepth, after, laterTheme, laterDepth, restored⟩

end WalletScreens.Scope

import WalletScreens.Proofs.Scope.Agreement
import WalletScreens.Proofs.Scope.Outline
import WalletScreens.Proofs.Scope.Rendering

/-!
Passes that fail.

The first work that fails ends the pass: its fault is the pass's, and what was asked for up to it
stays done, while nothing that comes after it is even asked for.  The first is the first that is
done.  Where each node does its own work before it draws others this is the order of the tree, but a
header draws its title and its logo before it can tell whether it can be drawn itself.
-/

namespace WalletScreens.Scope

open Screen Template Theme

namespace Stage

variable (stage : Stage) (renderer : Renderer) (scope : ScopeState)

theorem renderScript_composite (tree : Tree) :
    stage.renderScript renderer scope tree.composite.script =
      stage.renderScope renderer scope tree :=
  congrArg (stage.pass scope) (funext fun theme =>
    funext (Tree.run_composite renderer theme tree))

/-- A pass over a composite gives what its works give on the canvas of the start. -/
theorem renderScript_works (tree : Composite) :
    let canvas := stage.passCanvas renderer scope
    let works := tree.works canvas
    stage.renderScript renderer scope tree.script =
      ((Work.outcome works (tree.text canvas)).map (⟨scope.theme, scope.revision, ·⟩),
        requestToggle^[Work.requestsToFault works] stage) := by
  intro canvas works
  obtain ⟨drawn, requests⟩ := Composite.drawnOn_script canvas tree
  rw [renderScript_eq, drawn, requests]

/-- How the parts of an outline are put together makes no difference to what is asked for, nor to
whether the pass fails. -/
theorem renderScript_alike {outline other : Outline} (alike : other.parts = outline.parts) :
    let pass := stage.renderScript renderer scope outline.composite.script
    let otherPass := stage.renderScript renderer scope other.composite.script
    otherPass.2 = pass.2 ∧ ∀ fault, otherPass.1 = .error fault ↔ pass.1 = .error fault := by
  have same : other.composite.works (stage.passCanvas renderer scope) =
      outline.composite.works (stage.passCanvas renderer scope) := by
    rw [Outline.works_composite, Outline.works_composite, alike]
  simp only [renderScript_works, same]
  refine ⟨trivial, fun fault => ?_⟩
  unfold Work.outcome
  cases Work.firstFault? _ <;> simp [Except.map]

/-- The first work that fails ends a pass: its fault is what the pass gives, and what is asked for
up to it is done and nothing else, but for what observers ask for in answer.  The works are those of
all nodes, and where each node does its own first they are done in the order of the tree.  The
provided themes are as they were and the active scope is in the registry's mode.  How the parts of
an outline are put together changes nothing of this, and only the line breaks of what a pass gives
otherwise. -/
theorem pass_stops_at_first_fault (tree : Composite) :
    let canvas := stage.passCanvas renderer scope
    let works := tree.works canvas
    let pass := stage.renderScript renderer scope tree.script
    (∀ library : Tree, library.composite = tree →
      stage.renderScope renderer scope library = pass) ∧
    works.Perm (tree.preorder canvas) ∧
    (tree.OwnFirst canvas → works = tree.preorder canvas) ∧
    (pass.1.isOk = false ↔ ∃ work ∈ works, work.drawn.isOk = false) ∧
    (∀ before failing after fault, works = before ++ failing :: after →
      (∀ work ∈ before, work.drawn.isOk = true) → failing.drawn = .error fault →
      pass.1 = .error fault ∧
        pass.2 = requestToggle^[(before.map (·.requests)).sum + failing.requests] stage) ∧
    ((∀ work ∈ works, work.drawn.isOk = true) →
      pass.1 = .ok ⟨scope.theme, scope.revision, tree.text canvas⟩ ∧
        pass.2 = requestToggle^[(works.map (·.requests)).sum] stage) ∧
    (∀ id revision older,
      stage.registry.targets = (id, .scope ⟨stage.registry.mode, revision⟩) :: older →
      ∃ answers, pass.2.answers = stage.answers + answers ∧
        let flips := Work.requestsToFault works + answers
        pass.2.registry.mode = Mode.toggled^[flips] stage.registry.mode ∧
        pass.2.registry.targets =
          (id, .scope ⟨Mode.toggled^[flips] stage.registry.mode, revision + flips⟩) :: older) ∧
    pass.2.ambient = stage.ambient ∧
    (stage.registry.Agreeing → pass.2.registry.Agreeing) ∧
    (∀ mode operations,
      stage.registry = ((Client.started mode).run operations).stage.registry →
      pass.2.registry.Agreeing) ∧
    ∀ outline : Outline, outline.composite = tree →
      works = outline.parts.flatMap (·.works canvas) ∧
        tree.text canvas = Outline.textOf canvas outline.pieces ∧
        ∀ other : Outline, other.parts = outline.parts →
          let otherPass := stage.renderScript renderer scope other.composite.script
          otherPass.2 = pass.2 ∧
            (∀ fault, otherPass.1 = .error fault ↔ pass.1 = .error fault) ∧
            ((∀ work ∈ works, work.drawn.isOk = true) →
              otherPass.1 =
                .ok ⟨scope.theme, scope.revision, Outline.textOf canvas other.pieces⟩) := by
  intro canvas works pass
  have passIs : pass =
      ((Work.outcome works (tree.text canvas)).map (⟨scope.theme, scope.revision, ·⟩),
        requestToggle^[Work.requestsToFault works] stage) :=
    stage.renderScript_works renderer scope tree
  have keeps (agreeing : stage.registry.Agreeing) : pass.2.registry.Agreeing := by
    rw [passIs]
    exact agreeing_requestToggle_iterate _ agreeing
  refine ⟨?_, tree.perm_preorder canvas, Composite.OwnFirst.works_eq, ?_, ?_, ?_, ?_, ?_, keeps,
    ?_, ?_⟩
  · rintro library rfl
    exact (stage.renderScript_composite renderer scope library).symm
  · rw [passIs, ← Work.isOk_outcome works (tree.text canvas)]
    cases Work.outcome works (tree.text canvas) <;> rfl
  · intro before failing after fault split drawn failed
    rw [passIs, split, Work.requestsToFault_of_fault drawn failed, Work.outcome,
      Work.firstFault?_of_fault drawn failed]
    exact ⟨rfl, rfl⟩
  · intro drawn
    rw [passIs, Work.requestsToFault_of_drawn drawn, Work.outcome,
      Work.firstFault?_eq_none_iff.mpr drawn]
    exact ⟨rfl, rfl⟩
  · intro id revision older active
    rw [passIs]
    exact stage.flips_requestToggle_iterate active _
  · rw [passIs]
    exact ambient_requestToggle_iterate _ stage
  · intro mode operations reached
    refine keeps ?_
    rw [reached]
    exact ((Client.sound_started mode).run operations).registry.agreeing
  · rintro outline rfl
    refine ⟨outline.works_composite canvas, outline.text_composite canvas, ?_⟩
    intro other alike otherPass
    obtain ⟨sameStage, sameFault⟩ := stage.renderScript_alike renderer scope alike
    refine ⟨sameStage, sameFault, fun drawn => ?_⟩
    have otherIs : otherPass.1 = (Work.outcome (other.composite.works canvas)
        (other.composite.text canvas)).map (⟨scope.theme, scope.revision, ·⟩) :=
      congrArg Prod.fst (stage.renderScript_works renderer scope other.composite)
    have same : other.composite.works canvas = works := by
      rw [Outline.works_composite, alike, ← Outline.works_composite]
    rw [otherIs, same, Outline.text_composite, Work.outcome,
      Work.firstFault?_eq_none_iff.mpr drawn]
    rfl

/-- Three nodes ask for a toggle before a template that there is not, and one more after it. -/
theorem three_toggles_before_unknown_template :
    let asking (lines : Bool) (children : List Tree) : Tree :=
      .probe { toggle := true, lines } children
    let tree (lines : Bool) : Tree :=
      asking lines [asking true [asking false []], .template "missing" .null, asking false []]
    let renderer : Renderer := ⟨.text, false, []⟩
    let stage := (Stage.mount {}).2
    let pass (lines : Bool) := stage.renderScope renderer ⟨.dark, 0⟩ (tree lines)
    (tree true).composite.OwnFirst (stage.passCanvas renderer ⟨.dark, 0⟩) ∧
      (pass true).1 = .error (.template .templateNotFound) ∧
      (pass true).2 = requestToggle^[3] stage ∧
      (pass true).2.registry.mode = .light ∧
      (pass true).2.ambient = [] ∧
      (pass true).2.registry.Agreeing ∧
      (pass false).1 = .error (.template .templateNotFound) ∧
      (pass false).2 = (pass true).2 := by
  intro asking tree renderer stage pass
  let canvas := stage.passCanvas renderer ⟨.dark, 0⟩
  have ownFirst : (tree true).composite.OwnFirst canvas := by
    have last : (asking false []).composite.OwnFirst canvas :=
      Tree.ownFirst_probe canvas _ (by simp)
    have first : (asking true [asking false []]).composite.OwnFirst canvas :=
      Tree.ownFirst_probe canvas _ (by simpa using last)
    have missing := Tree.ownFirst_template canvas "missing" .null
    exact Tree.ownFirst_probe canvas _ (by simpa using ⟨first, missing, last⟩)
  obtain ⟨library, -, ordered, -, stops, -, -, ambient, agreeing, -, alike⟩ :=
    stage.pass_stops_at_first_fault renderer ⟨.dark, 0⟩ (tree true).composite
  rw [← library (tree true) rfl] at stops ambient agreeing alike
  rw [ordered ownFirst] at stops
  let nodes := (tree true).composite.preorder canvas
  have split : nodes = nodes.take 3 ++
      ⟨0, .error (.template .templateNotFound)⟩ :: nodes.drop 4 := rfl
  have drawn : ∀ work ∈ nodes.take 3, work.drawn.isOk = true := by decide
  obtain ⟨failed, asked⟩ := stops _ _ _ _ split drawn rfl
  have requests : (nodes.take 3).map (·.requests) = [1, 1, 1] := rfl
  rw [requests] at asked
  have mounted : stage.registry.Agreeing := (Registry.sound_empty .dark).mount.agreeing
  obtain ⟨-, -, others⟩ := alike (tree true).outline rfl
  obtain ⟨sameStage, sameFault, -⟩ := others (tree false).outline rfl
  rw [show (tree false).outline.composite = (tree false).composite from rfl,
    stage.renderScript_composite] at sameStage sameFault
  refine ⟨ownFirst, failed, asked, ?_, ambient, agreeing mounted, (sameFault _).mpr failed,
    sameStage⟩
  rw [show (pass true).2 = _ from asked]
  rfl

/-- The order of the tree does not tell what a pass gives where a node does its own work last: the
template of this header fails, but the one of its title fails before.  Nor do the requests tell all
that has been done where an observer answers one of them, nor the faults where a node does not hand
them on. -/
theorem header_fails_after_its_title :
    let stage := (Stage.mount {}).2
    let observed := (stage.observe 1).2
    let scope : ScopeState := ⟨.dark, 0⟩
    let header : Tree := .component (.header ⟨{ title := some "Send" }⟩)
    let missing : Tree := .template "missing" .null
    let asking : Tree := .probe { toggle := true } [missing]
    let gentle : Script := .child missing.script fun _ => .finish (.ok "")
    ∃ standard renderer, Renderer.withOutput .text false = .ok standard ∧
      ((standard.addTemplate "headline" (Layout.hole " text | nl(1) ")).bind
        (·.addTemplate "header" (Layout.hole " logo | blink "))) = .ok renderer ∧
      (Work.firstFault? (header.composite.preorder (stage.passCanvas renderer scope)) =
          some (.template .unknownFilter) ∧
        (stage.renderScope renderer scope header).1 = .error (.template .tooManyArguments)) ∧
      (Work.requestsToFault (asking.composite.works (observed.passCanvas renderer scope)) = 1 ∧
        (observed.renderScope renderer scope asking).2.registry.mode = observed.registry.mode) ∧
      (stage.renderScope renderer scope missing).1.isOk = false ∧
      (stage.renderScript renderer scope gentle).1.isOk = true := by
  intro stage observed scope header missing asking gentle
  let headlineNodes : List Node :=
    [.emit (.filter (.reference "text") "nl" [.value (.literal (.whole 1))])]
  let headerNodes : List Node := [.emit (.filter (.reference "logo") "blink" [])]
  have readsHeadline : Node.ofSource (Layout.hole " text | nl(1) ") = .ok headlineNodes := by
    unfold Node.ofSource Token.ofSource
    rw [Layout.toList_hole]
    cbv
  have readsHeader : Node.ofSource (Layout.hole " logo | blink ") = .ok headerNodes := by
    unfold Node.ofSource Token.ofSource
    rw [Layout.toList_hole]
    cbv
  let renderer : Renderer :=
    ⟨.text, false, ("header", headerNodes) :: ("headline", headlineNodes) :: Layout.builtIn⟩
  refine ⟨_, renderer, withOutput_eq .text false, ?_, ⟨?_, ?_⟩, ⟨?_, ?_⟩, ?_, ?_⟩
  · simp only [Renderer.addTemplate, Library.add, readsHeadline, readsHeader, Except.map,
      Except.bind]
    rfl
  · decide +kernel
  · rfl
  · decide +kernel
  · decide +kernel
  · rfl
  · rfl

end Stage

end WalletScreens.Scope

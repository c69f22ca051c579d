import Mathlib.Data.List.ReduceOption
import WalletScreens.Proofs.Scope.OneTheme
import WalletScreens.Proofs.Scope.Parts

/-!
Composites that put one text behind the other.

A node may draw some of its children together, on lines of their own, or all of them one by one.
Either way it is the same pieces that are drawn, in the same order, with or without line breaks
between them.  The trees of the library are put together like this.
-/

namespace WalletScreens.Scope

open Screen Theme

/-- What a component puts together, in order: texts of its own, what other components draw, and
groups of such, on lines of their own or not. -/
inductive Outline where
  | done
  | own (work : Script) (rest : Outline)
  | child (part : Composite) (rest : Outline)
  | group (lines : Bool) (members : List Outline) (rest : Outline)

namespace Outline

mutual

/-- What is left to do behind a text. -/
def behind : String → Outline → Composite
  | text, .done => .done text
  | text, .own work rest => .own work fun drawn => rest.behind (text ++ drawn)
  | text, .child part rest => .child part fun drawn => rest.behind (text ++ drawn)
  | text, .group lines members rest =>
      .each (composites members) fun texts =>
        rest.behind (text ++ (if lines then "\n" else "").intercalate texts)

def composites : List Outline → List Composite
  | [] => []
  | part :: others => part.behind "" :: composites others

end

def composite (outline : Outline) : Composite :=
  outline.behind ""

/-- A line break, or what is drawn in one piece. -/
abbrev Piece := Option Composite

def Piece.text (canvas : Canvas) : Piece → String
  | none => "\n"
  | some part => part.text canvas

mutual

def pieces : Outline → List Piece
  | .done => []
  | .own work rest => some (.own work .done) :: rest.pieces
  | .child part rest => some part :: rest.pieces
  | .group lines members rest =>
      (if lines then [none] else []).intercalate (piecesAll members) ++ rest.pieces

def piecesAll : List Outline → List (List Piece)
  | [] => []
  | part :: others => part.pieces :: piecesAll others

end

/-- What is drawn, without the line breaks. -/
def parts (outline : Outline) : List Composite :=
  outline.pieces.reduceOption

theorem piecesAll_eq_map (outlines : List Outline) : piecesAll outlines = outlines.map pieces := by
  induction outlines with
  | nil => rfl
  | cons part others ih => rw [piecesAll, ih, List.map_cons]

private theorem reduceOption_intercalate {gap : List Piece} (silent : gap.reduceOption = [])
    (groups : List (List Piece)) :
    (gap.intercalate groups).reduceOption = groups.flatMap (·.reduceOption) := by
  induction groups with
  | nil => rfl
  | cons group rest ih =>
      cases rest with
      | nil => simp
      | cons next others =>
          rw [List.intercalate_cons_cons, List.reduceOption_append, List.reduceOption_append,
            silent, ih, List.append_nil]
          rfl

/-- Whether a group stands on lines of its own makes no difference to what is drawn. -/
theorem parts_group (lines : Bool) (members : List Outline) (rest : Outline) :
    (group lines members rest).parts = members.flatMap (·.parts) ++ rest.parts := by
  have silent : (if lines then [none] else [] : List Piece).reduceOption = [] := by
    cases lines <;> rfl
  rw [parts, pieces, List.reduceOption_append, reduceOption_intercalate silent, piecesAll_eq_map,
    List.flatMap_map]
  rfl

section

variable (canvas : Canvas)

def textOf (pieces : List Piece) : String :=
  String.join (pieces.map (·.text canvas))

theorem textOf_cons (piece : Piece) (rest : List Piece) :
    textOf canvas (piece :: rest) = piece.text canvas ++ textOf canvas rest :=
  String.join_cons

theorem textOf_append (first second : List Piece) :
    textOf canvas (first ++ second) = textOf canvas first ++ textOf canvas second := by
  rw [textOf, List.map_append, String.join_append]
  rfl

theorem textOf_intercalate (gap : List Piece) (groups : List (List Piece)) :
    textOf canvas (gap.intercalate groups) =
      (textOf canvas gap).intercalate (groups.map (textOf canvas)) := by
  induction groups with
  | nil => rfl
  | cons group rest ih =>
      cases rest with
      | nil => simp
      | cons next others =>
          rw [List.intercalate_cons_cons, textOf_append, textOf_append, ih]
          exact String.intercalate_cons_cons.symm

mutual

theorem works_behind : ∀ (text : String) (outline : Outline),
    (outline.behind text).works canvas = outline.parts.flatMap (·.works canvas)
  | _, .done => rfl
  | text, .own work rest =>
      congrArg (_ :: ·) (works_behind (text ++ (work.work canvas).text) rest)
  | text, .child part rest =>
      congrArg (_ ++ ·) (works_behind (text ++ part.text canvas) rest)
  | text, .group lines members rest => by
      rw [behind, Composite.works_each, works_behind, works_composites, parts_group,
        List.flatMap_append]

theorem works_composites : ∀ outlines : List Outline,
    (composites outlines).flatMap (·.works canvas) =
      (outlines.flatMap (·.parts)).flatMap (·.works canvas)
  | [] => rfl
  | part :: others => by
      rw [composites, List.flatMap_cons, works_behind, works_composites others, List.flatMap_cons,
        List.flatMap_append]

end

mutual

theorem text_behind : ∀ (text : String) (outline : Outline),
    (outline.behind text).text canvas = text ++ textOf canvas outline.pieces
  | text, .done => String.append_empty.symm
  | text, .own work rest => by
      rw [pieces, textOf_cons, ← String.append_assoc]
      exact text_behind (text ++ (work.work canvas).text) rest
  | text, .child part rest => by
      rw [pieces, textOf_cons, ← String.append_assoc]
      exact text_behind (text ++ part.text canvas) rest
  | text, .group lines members rest => by
      rw [behind, Composite.text_each, text_behind, texts_composites, pieces, textOf_append,
        textOf_intercalate, String.append_assoc]
      cases lines <;> rfl

theorem texts_composites : ∀ outlines : List Outline,
    (composites outlines).map (·.text canvas) = (piecesAll outlines).map (textOf canvas)
  | [] => rfl
  | part :: others => by
      rw [composites, piecesAll, List.map_cons, List.map_cons, text_behind,
        texts_composites others, String.empty_append]

end

variable (outline : Outline)

/-- The works of an outline are those of its parts, one part after the other. -/
theorem works_composite :
    outline.composite.works canvas = outline.parts.flatMap (·.works canvas) :=
  works_behind canvas "" outline

theorem text_composite : outline.composite.text canvas = textOf canvas outline.pieces :=
  (text_behind canvas "" outline).trans String.empty_append

end

end Outline

mutual

/-- A tree of the library.  A probe does what it does without children, and then draws them. -/
def Tree.outline : Tree → Outline
  | .component part => .child part.composite .done
  | .template name data => .own (Tree.template name data).script .done
  | .probe node children =>
      .own (Tree.probe node []).script (.group node.lines (Tree.outlines children) .done)

def Tree.outlines : List Tree → List Outline
  | [] => []
  | tree :: rest => tree.outline :: Tree.outlines rest

end

def Tree.composite (tree : Tree) : Composite :=
  tree.outline.composite

section

variable {renderer : Renderer} {theme : Definition}

theorem Composite.Draws.run {composite : Composite} {draw : Canvas → Except RenderFault String}
    (draws : composite.Draws draw) (stage : Stage) :
    composite.script.run renderer theme stage = (draw (stage.canvas renderer theme), stage) := by
  rw [Script.run_eq, draws.drawn, draws.silent]
  rfl

variable (renderer theme)

mutual

theorem Tree.run_composite : ∀ (tree : Tree) (stage : Stage),
    tree.composite.script.run renderer theme stage = tree.render renderer theme stage
  | .component part, stage => by
      have drawn : part.composite.script.run renderer theme stage =
          (part.render (stage.canvas renderer theme), stage) :=
        part.draws_composite.run stage
      simp only [Tree.composite, Tree.outline, Outline.composite, Outline.behind, Composite.script,
        Script.run, drawn, Tree.render, String.empty_append]
      cases part.render (stage.canvas renderer theme) <;> rfl
  | .template name data, stage => by
      simp only [Tree.composite, Tree.outline, Outline.composite, Outline.behind, Composite.script,
        Script.run, Tree.run_script, Tree.render, String.empty_append]
      cases renderer.render stage.ambient name data <;> rfl
  | .probe node children, stage => by
      simp only [Tree.composite, Tree.outline, Outline.composite, Outline.behind, Composite.script,
        Script.run, Tree.run_script, Tree.render, String.empty_append]
      cases stage.useTheme with
      | error fault => rfl
      | ok provided =>
          simp only [Tree.renderAll, String.intercalate_nil, String.append_empty]
          rw [Tree.run_each]
          rfl

theorem Tree.run_each : ∀ (trees : List Tree) (next : List String → Composite) (stage : Stage),
    (Composite.each (Outline.composites (Tree.outlines trees)) next).script.run renderer theme
        stage =
      match Tree.renderAll renderer theme trees stage with
      | (.ok parts, stage) => (next parts).script.run renderer theme stage
      | (.error fault, stage) => (.error fault, stage)
  | [], _, _ => by
      simp only [Tree.outlines, Outline.composites, Composite.each, Tree.renderAll]
  | tree :: rest, next, stage => by
      have first := Tree.run_composite tree stage
      rw [Tree.composite, Outline.composite] at first
      simp only [Tree.outlines, Outline.composites, Composite.each, Composite.script, Script.run,
        Tree.renderAll, first]
      rcases tree.render renderer theme stage with ⟨drawn, after⟩
      cases drawn with
      | error fault => rfl
      | ok part =>
          simp only [Tree.run_each rest]
          rcases Tree.renderAll renderer theme rest after with ⟨drawnRest, last⟩
          cases drawnRest <;> rfl

end

end

section

variable (canvas : Canvas)

theorem Tree.ownFirst_template (name : String) (data : Json.Value) :
    (Tree.template name data).composite.OwnFirst canvas :=
  trivial

/-- A probe does its own work first, so among probes and templates no other order is met. -/
theorem Tree.ownFirst_probe (node : Probe) {children : List Tree}
    (first : ∀ tree ∈ children, tree.composite.OwnFirst canvas) :
    (Tree.probe node children).composite.OwnFirst canvas := by
  have parts : ∀ part ∈ Outline.composites (Tree.outlines children), part.OwnFirst canvas := by
    induction children with
    | nil => exact fun _ member => absurd member List.not_mem_nil
    | cons tree rest ih =>
        rw [List.forall_mem_cons] at first
        exact List.forall_mem_cons.mpr ⟨first.1, ih first.2⟩
  simp only [Tree.composite, Tree.outline, Outline.composite, Outline.behind, Composite.OwnFirst]
  refine (Composite.ownFirst_each canvas parts (fun texts => ?_) fun texts => ?_).2
  · rfl
  · exact trivial

end

end WalletScreens.Scope

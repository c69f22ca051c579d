import WalletScreens.Screen.Canvas

/-!
Templates outside of every theme.

A template looks at the theme in one place only, the filter for styles, and there it fails without
one.  So a template that is rendered without a theme either fails for that reason or never got to
look, and then it makes no difference which theme there is or how styles are written.
-/

namespace WalletScreens.Template

/-- A result outside of every theme is the result inside, unless a style was asked for. -/
def Indifferent {α : Type} (outside inside : Except Fault α) : Prop :=
  outside = .error .themeless ∨ outside = inside

namespace Indifferent

variable {α β : Type} {outside inside : Except Fault α}

theorem refl (result : Except Fault α) : Indifferent result result :=
  .inr rfl

/-- The steps after a result are taken with one and the same value on both sides, or not at all. -/
theorem bind {next other : α → Except Fault β} (first : Indifferent outside inside)
    (rest : ∀ value, Indifferent (next value) (other value)) :
    Indifferent (outside >>= next) (inside >>= other) := by
  rcases first with rfl | rfl
  · exact .inl rfl
  · cases outside with
    | error fault => exact .inr rfl
    | ok value => exact rest value

theorem map (first : Indifferent outside inside) (f : α → β) :
    Indifferent (outside.map f) (inside.map f) := by
  rcases first with rfl | rfl
  · exact .inl rfl
  · exact refl _

theorem andThen (first : Indifferent outside inside) (next : α → Except Fault β) :
    Indifferent (outside >>= next) (inside >>= next) :=
  first.bind fun value => refl (next value)

end Indifferent

variable {bare themed : Surface}

/-- Filters other than that for styles do not know where they are applied. -/
theorem Filter.indifferent_apply (unstyled : bare.styles = none) (filter : Filter)
    (subject : Value) (passed : List Passed) :
    Indifferent (filter.apply bare subject passed) (filter.apply themed subject passed) := by
  cases filter with
  | style =>
      cases passed with
      | nil => exact .refl _
      | cons first rest =>
          simp only [apply, applyOne, applyStyle, unstyled]
          cases text? first with
          | none => exact .refl _
          | some name =>
              -- The arguments are counted before the theme is looked at.
              dsimp only [sole]
              split
              · exact .inl rfl
              · exact .refl _
  | newline | truncateAt | padRight | padLeft | upper => exact .refl _

theorem Filter.indifferent_applyNamed (unstyled : bare.styles = none) (name : String)
    (subject : Value) (unnamed named : List (Bool × Value)) :
    Indifferent (applyNamed bare name subject unnamed named)
      (applyNamed themed name subject unnamed named) := by
  refine Indifferent.bind (.refl _) fun passed => ?_
  cases ofName? name with
  | none => exact .refl _
  | some filter => exact Filter.indifferent_apply unstyled filter subject passed

mutual

theorem Expr.indifferent_eval (unstyled : bare.styles = none) (scope : Scope) :
    ∀ expr : Expr, Indifferent (expr.eval bare scope) (expr.eval themed scope)
  | .literal _ | .reference _ => by
      rw [Expr.eval, Expr.eval]
      exact .refl _
  | .list items => by
      rw [Expr.eval, Expr.eval]
      exact (Expr.indifferent_evalAll unstyled scope items).andThen _
  | .member operand _ | .negate operand | .opposite operand => by
      rw [Expr.eval, Expr.eval]
      exact (operand.indifferent_eval unstyled scope).andThen _
  | .linked .join left right => by
      rw [Expr.eval, Expr.eval]
      exact (left.indifferent_eval unstyled scope).bind fun _ =>
        (right.indifferent_eval unstyled scope).andThen _
  | .linked .both left right => by
      rw [Expr.eval, Expr.eval]
      refine (left.indifferent_eval unstyled scope).bind fun value => ?_
      split
      · exact right.indifferent_eval unstyled scope
      · exact .refl _
  | .linked .either left right => by
      rw [Expr.eval, Expr.eval]
      refine (left.indifferent_eval unstyled scope).bind fun value => ?_
      split
      · exact .refl _
      · exact right.indifferent_eval unstyled scope
  | .choose test chosen none => by
      rw [Expr.eval, Expr.eval]
      refine (test.indifferent_eval unstyled scope).bind fun value => ?_
      split
      · exact chosen.indifferent_eval unstyled scope
      · exact .refl _
  | .choose test chosen (some other) => by
      rw [Expr.eval, Expr.eval]
      refine (test.indifferent_eval unstyled scope).bind fun value => ?_
      split
      · exact chosen.indifferent_eval unstyled scope
      · exact other.indifferent_eval unstyled scope
  | .filter subject name arguments => by
      rw [Expr.eval, Expr.eval]
      exact (subject.indifferent_eval unstyled scope).bind fun subject =>
        (Argument.indifferent_evalUnnamed unstyled scope arguments).bind fun unnamed =>
          (Argument.indifferent_evalNamed unstyled scope arguments).bind fun named =>
            (Filter.indifferent_applyNamed unstyled name subject unnamed named).andThen _

theorem Expr.indifferent_evalAll (unstyled : bare.styles = none) (scope : Scope) :
    ∀ exprs : List Expr,
      Indifferent (Expr.evalAll bare scope exprs) (Expr.evalAll themed scope exprs)
  | [] => by
      rw [Expr.evalAll, Expr.evalAll]
      exact .refl _
  | expr :: exprs => by
      rw [Expr.evalAll, Expr.evalAll]
      exact (expr.indifferent_eval unstyled scope).bind fun _ =>
        (Expr.indifferent_evalAll unstyled scope exprs).andThen _

theorem Argument.indifferent_evalUnnamed (unstyled : bare.styles = none) (scope : Scope) :
    ∀ arguments : List Argument, Indifferent (Argument.evalUnnamed bare scope arguments)
      (Argument.evalUnnamed themed scope arguments)
  | [] => by
      rw [Argument.evalUnnamed, Argument.evalUnnamed]
      exact .refl _
  | .value expr :: rest | .spread expr :: rest => by
      rw [Argument.evalUnnamed, Argument.evalUnnamed]
      exact (expr.indifferent_eval unstyled scope).bind fun _ =>
        (Argument.indifferent_evalUnnamed unstyled scope rest).andThen _
  | .named _ _ :: rest | .spreadNamed _ :: rest => by
      rw [Argument.evalUnnamed, Argument.evalUnnamed]
      exact Argument.indifferent_evalUnnamed unstyled scope rest

theorem Argument.indifferent_evalNamed (unstyled : bare.styles = none) (scope : Scope) :
    ∀ arguments : List Argument, Indifferent (Argument.evalNamed bare scope arguments)
      (Argument.evalNamed themed scope arguments)
  | [] => by
      rw [Argument.evalNamed, Argument.evalNamed]
      exact .refl _
  | .named _ expr :: rest | .spreadNamed expr :: rest => by
      rw [Argument.evalNamed, Argument.evalNamed]
      exact (expr.indifferent_eval unstyled scope).bind fun _ =>
        (Argument.indifferent_evalNamed unstyled scope rest).andThen _
  | .value _ :: rest | .spread _ :: rest => by
      rw [Argument.evalNamed, Argument.evalNamed]
      exact Argument.indifferent_evalNamed unstyled scope rest

end

theorem Argument.indifferent_applyFilters (unstyled : bare.styles = none) (scope : Scope)
    (filters : List (String × List Argument)) (subject : Value) :
    Indifferent (Argument.applyFilters bare scope subject filters)
      (Argument.applyFilters themed scope subject filters) := by
  induction filters generalizing subject with
  | nil => exact .refl _
  | cons filter rest ih =>
      exact (Argument.indifferent_evalUnnamed unstyled scope filter.2).bind fun unnamed =>
        (Argument.indifferent_evalNamed unstyled scope filter.2).bind fun named =>
          (Filter.indifferent_applyNamed unstyled filter.1 subject unnamed named).bind fun text =>
            ih (.text text)

mutual

/-- What is assigned to is found in the same way everywhere; at most a member's subject is
evaluated for it. -/
theorem Target.indifferent_assign (unstyled : bare.styles = none) (scope : Scope) (value : Value) :
    ∀ target : Target, Indifferent (target.assign bare scope value)
      (target.assign themed scope value)
  | .reference _ => by
      rw [Target.assign, Target.assign]
      exact .refl _
  | .member subject _ => by
      rw [Target.assign, Target.assign]
      exact (subject.indifferent_eval unstyled scope).andThen _
  | .unpack targets => by
      rw [Target.assign, Target.assign]
      split
      · exact .refl _
      · split
        · exact Target.indifferent_assignAll unstyled scope _ targets
        · exact .refl _

theorem Target.indifferent_assignAll (unstyled : bare.styles = none) (scope : Scope)
    (values : List Value) :
    ∀ targets : List Target, Indifferent (Target.assignAll bare scope values targets)
      (Target.assignAll themed scope values targets)
  | [] => by
      rw [Target.assignAll, Target.assignAll]
      exact .refl _
  | target :: targets => by
      rw [Target.assignAll, Target.assignAll]
      exact (target.indifferent_assign unstyled scope _).bind fun scope =>
        Target.indifferent_assignAll unstyled scope _ targets

end

theorem Surface.emitted_congr (escaping : bare.escapes = themed.escapes) :
    bare.emitted = themed.emitted := by
  funext value
  rw [emitted, emitted, escaping]

theorem Surface.captured_congr (escaping : bare.escapes = themed.escapes) :
    bare.captured = themed.captured := by
  funext text
  rw [captured, captured, escaping]

mutual

theorem Node.indifferent_render (unstyled : bare.styles = none)
    (escaping : bare.escapes = themed.escapes) (scope : Scope) :
    ∀ node : Node, Indifferent (node.render bare scope) (node.render themed scope)
  | .literal _ => by
      rw [Node.render, Node.render]
      exact .refl _
  | .emit expr => by
      rw [Node.render, Node.render, Surface.emitted_congr escaping]
      exact (expr.indifferent_eval unstyled scope).andThen _
  | .assign target expr => by
      rw [Node.render, Node.render]
      exact (expr.indifferent_eval unstyled scope).bind fun value =>
        (target.indifferent_assign unstyled scope value).andThen _
  | .capture target filters body => by
      rw [Node.render, Node.render, Surface.captured_congr escaping]
      exact (Node.indifferent_renderAll unstyled escaping scope body).bind fun written =>
        (Argument.indifferent_applyFilters unstyled written.2 filters
          (themed.captured written.1)).bind fun value =>
            (target.indifferent_assign unstyled written.2 value).andThen _
  | .branch test yes no => by
      rw [Node.render, Node.render]
      refine (test.indifferent_eval unstyled scope).bind fun value => ?_
      split
      · exact Node.indifferent_renderAll unstyled escaping scope yes
      · exact Node.indifferent_renderAll unstyled escaping scope no

theorem Node.indifferent_renderAll (unstyled : bare.styles = none)
    (escaping : bare.escapes = themed.escapes) (scope : Scope) :
    ∀ nodes : List Node, Indifferent (Node.renderAll bare scope nodes)
      (Node.renderAll themed scope nodes)
  | [] => by
      rw [Node.renderAll, Node.renderAll]
      exact .refl _
  | node :: nodes => by
      rw [Node.renderAll, Node.renderAll]
      exact (node.indifferent_render unstyled escaping scope).bind fun written =>
        (Node.indifferent_renderAll unstyled escaping written.2 nodes).andThen _

end

section

variable (unstyled : bare.styles = none) (escaping : bare.escapes = themed.escapes)
include unstyled escaping

theorem indifferent_render (nodes : List Node) (data : Json.Value) :
    Indifferent (render bare nodes data) (render themed nodes data) :=
  (Node.indifferent_renderAll unstyled escaping { data } nodes).map Prod.fst

theorem indifferent_renderSource (source : String) (data : Json.Value) :
    Indifferent (renderSource bare source data) (renderSource themed source data) :=
  Indifferent.bind (.refl (Node.ofSource source)) fun nodes =>
    indifferent_render unstyled escaping nodes data

end

theorem Library.indifferent_renderNamed (unstyled : bare.styles = none) (library : Library)
    (name : String) (data : Json.Value) :
    Indifferent (library.renderNamed bare name data) (library.renderNamed themed name data) := by
  unfold renderNamed
  split
  · refine indifferent_render ?_ ?_ _ data
    · exact unstyled
    · rfl
  · exact .refl _

end WalletScreens.Template

namespace WalletScreens.Screen

open Style Template Theme

/-- A text that is written outside of every theme is written inside as well.  What is written inside
only is not written outside for want of a theme, and the fault says so. -/
structure ThemedByStyle (outside inside : Except RenderFault String) : Prop where
  same : ∀ text, outside = .ok text → inside = .ok text
  wanting : ∀ text fault, inside = .ok text → outside = .error fault →
    ∃ cause : Template.Fault, fault = .template cause ∧ cause.kind = "InvalidOperation" ∧
      cause.message? = some "no theme is in scope; render components through a ThemeScope"

theorem ThemedByStyle.of_indifferent {outside inside : Except Template.Fault String}
    (indifferent : Indifferent outside inside) :
    ThemedByStyle (outside.mapError .template) (inside.mapError .template) := by
  rcases indifferent with rfl | rfl
  · refine ⟨nofun, fun text fault _ failed => ?_⟩
    cases failed
    exact ⟨.themeless, rfl, rfl, rfl⟩
  · refine ⟨fun text written => written, fun text fault written failed => ?_⟩
    rw [written] at failed
    contradiction

/-- The theme enters templates by the filter for styles and in no other way.  Whatever a source or a
template of the library writes with no theme in scope, it writes under every theme, in every output
mode and on every terminal; and where a theme is all that it lacks, the fault is that of the
filter. -/
theorem theme_enters_by_style (library : Library) (data : Json.Value) (bare output : OutputMode)
    (before now : Bool) (theme : Definition) (outer : List Definition) :
    let outside : Renderer := ⟨bare, before, library⟩
    let inside : Renderer := ⟨output, now, library⟩
    (∀ source, ThemedByStyle (outside.renderSource [] source data)
      (inside.renderSource (theme :: outer) source data)) ∧
    ∀ name, ThemedByStyle (outside.render [] name data)
      (inside.render (theme :: outer) name data) :=
  ⟨fun source => .of_indifferent (indifferent_renderSource rfl (by rfl) source data),
    fun name => .of_indifferent (library.indifferent_renderNamed rfl name data)⟩

/-- A template that asks for a style only where a vote is open. -/
theorem style_of_open_vote :
    let id : Expr := .reference "id"
    let styled : Node := .emit (.filter id "style" [.value (.literal (.text "h5"))])
    let library : Library := [("vote", [.branch (.reference "open") [styled] [.emit id]])]
    let closed : Json.Value := .record [("id", .text "c2"), ("open", .bool false)]
    let opened : Json.Value := .record [("id", .text "c2"), ("open", .bool true)]
    let bare : Renderer := ⟨.text, false, library⟩
    let tagged : Renderer := ⟨.termDebug, false, library⟩
    bare.render [] "vote" closed = .ok "c2" ∧
      tagged.render [Catalog.dark] "vote" closed = .ok "c2" ∧
      tagged.render [Catalog.dark] "vote" opened = .ok "[h5]c2[/h5]" ∧
      ∃ cause : Template.Fault, bare.render [] "vote" opened = .error (.template cause) ∧
        cause.kind = "InvalidOperation" := by
  intro id styled library closed opened bare tagged
  have written : bare.render [] "vote" closed = .ok "c2" := rfl
  have inside : tagged.render [Catalog.dark] "vote" opened = .ok "[h5]c2[/h5]" := rfl
  have outside : bare.render [] "vote" opened = .error (.template .themeless) := rfl
  obtain ⟨-, alike⟩ :=
    theme_enters_by_style library closed .text .termDebug false false Catalog.dark []
  obtain ⟨-, styled⟩ :=
    theme_enters_by_style library opened .text .termDebug false false Catalog.dark []
  obtain ⟨cause, why, kind, -⟩ := (styled "vote").wanting _ _ inside outside
  exact ⟨written, (alike "vote").same _ written, inside, cause, by rw [outside, why], kind⟩

end WalletScreens.Screen

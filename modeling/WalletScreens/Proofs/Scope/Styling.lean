import WalletScreens.Proofs.Screen.Reading
import WalletScreens.Proofs.Style.Alias
import WalletScreens.Proofs.Template.Evaluation
import WalletScreens.Scope.Stage
import WalletScreens.Screen.Canvas

/-!
Styles from inside a template and from outside.

A template asks for a style by a filter, whose sheet comes from the innermost theme provided, and a
component asks its canvas.  Where both have the same theme they write the same, and what they write
is told by the brush that the name leads to, if it leads to any, and by the output mode.  The mode
that leaves it to the terminal does so at two times, so there the terminal has to say the same at
both.
-/

namespace WalletScreens.Style.Sheet

/-- How a text is written in a style.  A tag has a question mark if the name leads to no brush, and
where there are no tags such a text is marked as well. -/
inductive Styled (sheet : Sheet) (output : OutputMode) (terminal : Bool) (name text : String) :
    String → Prop
  | painted {brush : Brush} (leads : sheet.LeadsTo name brush)
      (color : output = .term ∨ output = .auto ∧ terminal = true) :
      Styled sheet output terminal name text (brush.paint text)
  | plain {brush : Brush} (leads : sheet.LeadsTo name brush)
      (colorless : output = .text ∨ output = .auto ∧ terminal = false) :
      Styled sheet output terminal name text text
  | tagged {brush : Brush} (leads : sheet.LeadsTo name brush) (tags : output = .termDebug) :
      Styled sheet output terminal name text ("[" ++ name ++ "]" ++ text ++ "[/" ++ name ++ "]")
  | marked (missing : ∀ brush, ¬ sheet.LeadsTo name brush) (untagged : output ≠ .termDebug) :
      Styled sheet output terminal name text (sheet.missingIndicator ++ " " ++ text)
  | questioned (missing : ∀ brush, ¬ sheet.LeadsTo name brush) (tags : output = .termDebug) :
      Styled sheet output terminal name text
        ("[" ++ (name ++ "?") ++ "]" ++ text ++ "[/" ++ (name ++ "?") ++ "]")

theorem styled_write (sheet : Sheet) (output : OutputMode) (terminal : Bool)
    (name text : String) :
    Styled sheet output terminal name text (sheet.write (output.rendition terminal) name text) := by
  rw [write, OutputMode.isTagged_rendition, OutputMode.isColored_rendition]
  cases found : sheet.resolve name with
  | some brush =>
      have leads := (sheet.resolve_eq_some_iff name brush).mp found
      simp only [apply, applyTagged, found]
      cases output with
      | term => exact .painted leads (.inl rfl)
      | text => exact .plain leads (.inl rfl)
      | auto =>
          cases terminal with
          | true => exact .painted leads (.inr ⟨rfl, rfl⟩)
          | false => exact .plain leads (.inr ⟨rfl, rfl⟩)
      | termDebug => exact .tagged leads rfl
  | none =>
      have missing (brush : Brush) : ¬ sheet.LeadsTo name brush := fun leads => by
        rw [(sheet.resolve_eq_some_iff name brush).mpr leads] at found
        contradiction
      simp only [apply, applyTagged, found]
      cases output with
      | term | text | auto => exact .marked missing (by decide)
      | termDebug => exact .questioned missing rfl

end WalletScreens.Style.Sheet

namespace WalletScreens.Screen.Layout

open Template

/-- A text in a style, both of them fields. -/
def styledField : String :=
  hole " text | style(name) "

namespace Reading

set_option maxRecDepth 20000

def styledField : Reading where
  source := Layout.styledField
  nodes := [inStyle (.reference "text") (.reference "name")]
  reads := by
    unfold Node.ofSource Token.ofSource Layout.styledField
    rw [toList_hole]
    cbv

end Reading

end WalletScreens.Screen.Layout

namespace WalletScreens.Screen.Renderer

open Template Theme

/-- A source and a template registered from it are rendered alike, as the nodes that are read, but
for signs of markup under the name of a file of markup. -/
theorem renders_reading (renderer : Renderer) (reading : Layout.Reading) (ambient : List Definition)
    (name : String) (data : Json.Value) :
    let surface := renderer.surface ambient
    renderer.renderSource ambient reading.source data =
        (Template.render surface reading.nodes data).mapError .template ∧
      ∃ registered, renderer.addTemplate name reading.source = .ok registered ∧
        registered.render ambient name data =
          (Template.render { surface with escapes := Library.escapes name } reading.nodes
            data).mapError .template := by
  intro surface
  constructor
  · rw [renderSource, Template.renderSource, reading.reads]
    rfl
  · have added : renderer.library.add name reading.source =
        .ok ((name, reading.nodes) :: renderer.library) := by
      rw [Library.add, reading.reads]
      rfl
    refine ⟨_, by rw [addTemplate, added], ?_⟩
    rw [render, Library.renderNamed, List.lookup_cons_self]
    rfl

end WalletScreens.Screen.Renderer

namespace WalletScreens.Scope

open Screen Template Theme

theorem Stage.fst_providing {α : Type} (theme : Definition) (stage : Stage)
    (body : Stage → α × Stage) :
    (stage.providing theme body).1 = (body { stage with ambient := theme :: stage.ambient }).1 :=
  rfl

variable {data : Json.Value} {name text : String}

theorem render_styledField {surface : Surface} {sheet : Style.Sheet}
    (styled : surface.styles = some sheet) (given : data.field? "text" = some (.text text))
    (named : data.field? "name" = some (.text name)) :
    let written := sheet.write surface.rendition name text
    render surface Layout.Reading.styledField.nodes data =
      .ok (if surface.escapes then Text.escapeMarkup written else written) := by
  simp [Layout.Reading.styledField, Layout.inStyle, given, named, Filter.applyNamed_style styled,
    Value.toText, -Json.Value.field?]

/-- With a theme provided, a template that puts a text in a style writes what the canvas of that
theme writes, whether the source is rendered as it is or registered under a name.  Only a name of a
file of markup has the signs of markup in it escaped.  The terminal has been asked when the renderer
was made and is asked again for the canvas; where that decides, it has to say the same. -/
theorem style_filter_writes_as_canvas (renderer : Renderer) (theme : Definition) (stage : Stage)
    (outer : List Definition) (key : String) (terminal : Bool)
    (steady : (Canvas.mk renderer theme outer terminal).Steady)
    (given : data.field? "text" = some (.text text))
    (named : data.field? "name" = some (.text name)) :
    let written := (Canvas.mk renderer theme outer terminal).style name text
    (stage.providing theme fun inner =>
        (renderer.renderSource inner.ambient Layout.styledField data, inner)).1 = .ok written ∧
      (∃ registered, renderer.addTemplate key Layout.styledField = .ok registered ∧
        (stage.providing theme fun inner =>
          (registered.render inner.ambient key data, inner)).1 =
            .ok (if Library.escapes key then Text.escapeMarkup written else written)) ∧
      theme.styles.Styled renderer.output terminal name text written := by
  intro written
  have same : written = theme.styles.write renderer.rendition name text := by
    rw [← steady.style_eq_write]
  obtain ⟨rendered, registered, added, alike⟩ :=
    renderer.renders_reading .styledField (theme :: stage.ambient) key data
  rw [render_styledField rfl given named, except_mapError_ok] at rendered alike
  simp only [Stage.fst_providing, same]
  refine ⟨rendered, ⟨registered, added, alike⟩, ?_⟩
  rw [steady.rendition_eq]
  exact theme.styles.styled_write renderer.output terminal name text

/-- A template writes colours as long as its renderer lives, also where a canvas does no more. -/
example :
    let canvas : Canvas := ⟨⟨.auto, true, []⟩, Catalog.dark, [], false⟩
    Catalog.dark.styles.write canvas.renderer.rendition "primary" "x" = "\x1b[38;5;33mx\x1b[0m" ∧
      canvas.style "primary" "x" = "x" := by
  decide +kernel

/-- The text of a template, put in a style that is an alias, is written and not rendered.  A file of
markup has the signs in it escaped. -/
theorem style_of_template_text :
    let renderer : Renderer := ⟨.auto, true, []⟩
    let text := "\x7b\x7b <b> \x7d\x7d\n"
    let data : Json.Value := .record [("name", .text "error.border"), ("text", .text text)]
    let painted := "\x1b[38;5;166m" ++ text ++ "\x1b[0m"
    (Canvas.mk renderer Catalog.dark [] true).Steady ∧
      data.field? "text" = some (.text text) ∧
      data.field? "name" = some (.text "error.border") ∧
      (Stage.providing Catalog.dark {} fun inner =>
        (renderer.renderSource inner.ambient Layout.styledField data, inner)).1 = .ok painted ∧
      (∃ registered, renderer.addTemplate "field.html.j2" Layout.styledField = .ok registered ∧
        (Stage.providing Catalog.dark {} fun inner =>
          (registered.render inner.ambient "field.html.j2" data, inner)).1 =
            .ok "\x1b[38;5;166m\x7b\x7b &lt;b&gt; \x7d\x7d\n\x1b[0m") ∧
      Catalog.dark.styles.lookup? "error.border" = some (.sameAs "error.dark") := by
  intro renderer text data painted
  have steady : (Canvas.mk renderer Catalog.dark [] true).Steady := fun _ => rfl
  have given : data.field? "text" = some (.text text) := rfl
  have named : data.field? "name" = some (.text "error.border") := rfl
  have written : (Canvas.mk renderer Catalog.dark [] true).style "error.border" text = painted := by
    decide +kernel
  have escaped : (if Library.escapes "field.html.j2" then Text.escapeMarkup painted else painted) =
      "\x1b[38;5;166m\x7b\x7b &lt;b&gt; \x7d\x7d\n\x1b[0m" := by
    decide +kernel
  obtain ⟨rendered, registered, -⟩ :=
    style_filter_writes_as_canvas renderer Catalog.dark {} [] "field.html.j2" true steady given
      named
  rw [written] at rendered registered
  rw [escaped] at registered
  exact ⟨steady, given, named, rendered, registered, by decide +kernel⟩

end WalletScreens.Scope

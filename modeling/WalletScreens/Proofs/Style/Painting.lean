import WalletScreens.Proofs.Style.Alias
import WalletScreens.Proofs.Text.Escape
import WalletScreens.Proofs.Theme.Vocabulary

/-!
Texts written in the styles of a theme.

On a terminal a style puts codes before and after a text and leaves the text itself alone.
-/

namespace WalletScreens.Style

open Text Text.Escape

namespace Brush

/-- The colour of the brush is an entry of the palette of 256. -/
def InPalette (brush : Brush) : Prop :=
  ∀ entry ∈ brush.color, entry < 256

/-- The brush has a colour, and it is an entry of the palette of 256. -/
def Tinted (brush : Brush) : Prop :=
  ∃ entry < 256, brush.color = some entry

theorem Tinted.inPalette {brush : Brush} (tinted : brush.Tinted) : brush.InPalette := by
  obtain ⟨entry, bounded, colored⟩ := tinted
  rw [InPalette, colored]
  rintro _ ⟨⟩
  exact bounded

/-- A brush with a colour writes codes even where there is nothing to paint. -/
theorem Tinted.paint_ne_empty {brush : Brush} (tinted : brush.Tinted) (text : String) :
    brush.paint text ≠ "" := by
  obtain ⟨entry, -, colored⟩ := tinted
  simp [paint, isBlank, colored]

theorem shows_colorCode {entry : Nat} (bounded : entry < 256) :
    Shows ("\x1b[38;5;" ++ toString entry ++ "m") "" := by
  have few : (Nat.toDigits 10 entry).length ≤ 3 :=
    (Nat.length_toDigits_le_iff (by omega) (by omega)).mpr (by omega)
  have digits : ∀ c ∈ Nat.toDigits 10 entry, c.isDigit = true :=
    fun c member => Nat.isDigit_of_mem_toDigits (by decide) (by decide) member
  have number : Progress.separated.after (toString entry).toList =
      some (.digits (Nat.toDigits 10 entry).length) := by
    rw [Nat.toString_eq_repr, Nat.toList_repr]
    exact Progress.after_number Nat.toDigits_ne_nil digits (by omega)
  have opened : Progress.started.after "[38;5;".toList = some .separated := by decide
  have ends : (Progress.digits (Nat.toDigits 10 entry).length).after "m".toList =
      some .finished := by
    change ((if (Nat.toDigits 10 entry).length < 5 then some Progress.finished else none).bind
      some) = some .finished
    rw [if_pos (by omega), Option.bind_some]
  rw [show "\x1b[38;5;" = "\x1b" ++ "[38;5;" from rfl, String.append_assoc, String.append_assoc]
  refine Shows.of_code _ ?_
  rw [String.toList_append, String.toList_append, Progress.after_append, opened,
    Option.bind_some, Progress.after_append, number, Option.bind_some, ends]

theorem shows_opening {brush : Brush} (inPalette : brush.InPalette) :
    Shows brush.opening "" := by
  have empty : Shows "" "" := .of_plain (List.forall_mem_nil _)
  have bold : Shows (if brush.bold then "\x1b[1m" else "") "" := by
    split
    · exact .of_code "[1m" (by decide)
    · exact empty
  have dim : Shows (if brush.dim then "\x1b[2m" else "") "" := by
    split
    · exact .of_code "[2m" (by decide)
    · exact empty
  unfold opening
  change Shows _ ("" ++ "" ++ "")
  refine Shows.append (Shows.append ?_ bold) dim
  split
  · rename_i entry found
    exact shows_colorCode (inPalette entry found)
  · exact empty

theorem shows_paint {brush : Brush} (inPalette : brush.InPalette) {text : String}
    (plain : Plain text.toList) : Shows (brush.paint text) text := by
  unfold paint
  split
  · exact .of_plain plain
  · have closing : Shows "\x1b[0m" "" := .of_code "[0m" (by decide)
    have whole := ((shows_opening inPalette).append (.of_plain plain)).append closing
    rwa [String.empty_append, String.append_empty] at whole

end Brush

/-- A piece in a style says the same with codes and without, where the brushes keep to the palette.
A style that leads to no brush writes no codes at all. -/
theorem Sheet.shows_write {sheet : Sheet}
    (inPalette : ∀ name brush, sheet.lookup? name = some (.concrete brush) → brush.InPalette)
    (indicator : Plain sheet.missingIndicator.toList) (name : String) {text : String}
    (plain : Plain text.toList) :
    Shows (sheet.write .colored name text) (sheet.write .plain name text) := by
  change Shows (sheet.apply name text true) (sheet.apply name text false)
  unfold apply
  cases found : sheet.resolve name with
  | none => exact (Shows.of_plain indicator).joined " " (by decide) (.of_plain plain)
  | some brush =>
      have leads := (sheet.resolve_eq_some_iff name brush).mp found
      obtain ⟨last, concrete⟩ := leads.exists_concrete
      exact Brush.shows_paint (inPalette last brush concrete) plain

theorem Sheet.write_plain_ne_empty {sheet : Sheet} {name text : String} (written : text ≠ "") :
    sheet.write .plain name text ≠ "" := by
  change sheet.apply name text false ≠ ""
  unfold apply
  cases sheet.resolve name with
  | none => simp [written]
  | some brush => exact written

end WalletScreens.Style

namespace WalletScreens.Theme

open Style Text Text.Escape

theorem Rgb.terminalEntry_lt (color : Rgb) : color.terminalEntry < 256 := by
  have red := cubeLevel_lt color.red
  have green := cubeLevel_lt color.green
  have blue := cubeLevel_lt color.blue
  unfold terminalEntry grayEntry
  split_ifs <;> omega

@[simp] theorem tinted_tint (brush : Brush) (color : Rgb) : (brush.tint color).Tinted :=
  ⟨color.terminalEntry, color.terminalEntry_lt, rfl⟩

@[simp] theorem tinted_ofColor (color : Rgb) : (Brush.ofColor color).Tinted :=
  tinted_tint _ color

variable (palette : Palette) (typography : Typography)

theorem tinted_deriveStyles {name : String} {brush : Brush}
    (found : (deriveStyles palette typography).lookup? name = some (.concrete brush)) :
    brush.Tinted := by
  have tinted : ∀ style ∈ (deriveStyles palette typography).entries,
      ∀ brush, style.2 = .concrete brush → brush.Tinted := by
    rw [entries_deriveStyles, List.forall_mem_append, List.forall_mem_append]
    simp [colorStyles, variantStyles, partStyles]
  obtain ⟨before, after, split, -⟩ := List.lookup_eq_some_iff.mp found
  exact tinted (name, .concrete brush) (split ▸ List.mem_append_right _ List.mem_cons_self) _ rfl

theorem Definition.missingIndicator_styles (definition : Definition) :
    definition.styles.missingIndicator = "(!?)" := by
  rw [definition.styles_eq, deriveStyles, ← Sheet.addAll, Sheet.missingIndicator_addAll]

/-- In the styles of a theme, codes are all that colour adds to a piece. -/
theorem Definition.shows_write (definition : Definition) (name : String) {text : String}
    (plain : Plain text.toList) :
    Shows (definition.styles.write .colored name text)
      (definition.styles.write .plain name text) := by
  refine Sheet.shows_write (fun _ _ found => ?_) ?_ name plain
  · rw [definition.styles_eq] at found
    exact (tinted_deriveStyles _ _ found).inPalette
  · rw [definition.missingIndicator_styles]
    decide

end WalletScreens.Theme

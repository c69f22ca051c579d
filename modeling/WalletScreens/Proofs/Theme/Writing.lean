import WalletScreens.Proofs.Style.Painting
import WalletScreens.Proofs.Text.Lines

/-!
What all themes write alike.

Whatever its colours and sizes are, a theme has a brush for each of the names of the vocabulary,
and every brush has a colour.  So themes differ in the codes that they write for these names and in
nothing else.
-/

namespace WalletScreens.Style

open Text

/-- What a style that has a brush writes without colour. -/
def Rendition.marked (rendition : Rendition) (name text : String) : String :=
  if rendition.isTagged then "[" ++ name ++ "]" ++ text ++ "[/" ++ name ++ "]" else text

theorem Rendition.eq_colored {rendition : Rendition} (colored : rendition.isColored = true) :
    rendition = .colored := by
  cases rendition with
  | colored => rfl
  | plain | tagged => contradiction

/-- Something is written around every piece in a style. -/
def Rendition.marks (rendition : Rendition) : Bool :=
  rendition.isColored || rendition.isTagged

theorem Brush.breaks_paint (brush : Brush) (text : String) :
    breaks (brush.paint text) = breaks text := by
  have opening : breaks brush.opening = 0 := by
    unfold opening
    rw [breaks_append, breaks_append]
    have color (entry : Nat) : breaks ("\x1b[38;5;" ++ toString entry ++ "m") = 0 := by
      rw [breaks_append, breaks_append, breaks_number]
      rfl
    cases brush.color <;> cases brush.bold <;> cases brush.dim <;> simp only [color] <;> rfl
  unfold paint
  split
  · rfl
  · rw [breaks_append, breaks_append, opening, Nat.zero_add]
    rfl

namespace Sheet

variable (sheet : Sheet) (rendition : Rendition)

/-- Writes a text in a style that has a brush, and leaves all others to `missing`. -/
def writeOr (missing : String → String → String) (name text : String) : String :=
  match sheet.resolve name with
  | none => missing name text
  | some brush => if rendition.isColored then brush.paint text else rendition.marked name text

/-- What is written in a style without a brush. -/
def writeMissing (name text : String) : String :=
  if rendition.isTagged then "[" ++ name ++ "?]" ++ text ++ "[/" ++ name ++ "?]"
  else sheet.missingIndicator ++ " " ++ text

theorem write_eq_writeOr :
    sheet.write rendition = sheet.writeOr rendition (sheet.writeMissing rendition) := by
  funext name text
  unfold write writeOr writeMissing apply applyTagged Rendition.marked
  cases sheet.resolve name <;> cases rendition <;>
    simp [Rendition.isTagged, Rendition.isColored, String.append_assoc]

variable {sheet} {rendition} {name : String} {brush : Brush}

theorem writeOr_eq_of_resolve (resolved : sheet.resolve name = some brush)
    (missing other : String → String → String) :
    sheet.writeOr rendition missing name = sheet.writeOr rendition other name := by
  funext text
  simp only [writeOr, resolved]

/-- Without colour a brush leaves no trace. -/
theorem writeOr_marked (sheet : Sheet) (colorless : rendition.isColored = false) :
    sheet.writeOr rendition rendition.marked = rendition.marked := by
  funext name text
  unfold writeOr
  rw [colorless]
  cases sheet.resolve name <;> rfl

/-- Neither codes nor tags break a line. -/
theorem breaks_write (resolved : sheet.resolve name = some brush) (unbroken : breaks name = 0)
    (rendition : Rendition) (text : String) :
    breaks (sheet.write rendition name text) = breaks text := by
  have tags : breaks ("[" ++ name ++ "]" ++ text ++ "[/" ++ name ++ "]") = breaks text := by
    simp only [breaks_append, unbroken, Nat.add_zero]
    rw [show breaks "[" = 0 from rfl, show breaks "]" = 0 from rfl, show breaks "[/" = 0 from rfl]
    omega
  rw [write_eq_writeOr, writeOr, resolved]
  unfold Rendition.marked
  dsimp only
  split
  · exact brush.breaks_paint text
  · split
    · exact tags
    · rfl

end Sheet

end WalletScreens.Style

namespace WalletScreens.Theme

open Style Text

namespace Definition

variable (theme : Definition) {name : String}

theorem exists_brush (known : name ∈ baseNames ++ partNames) :
    ∃ brush, theme.styles.resolve name = some brush := by
  rw [theme.styles_eq]
  rw [← names_deriveStyles theme.palette theme.typography] at known
  obtain ⟨brush, leads⟩ :=
    Sheet.leadsTo_of_faultFrom known (faultFrom_deriveStyles _ _ name known)
  exact ⟨brush, (Sheet.resolve_eq_some_iff _ name brush).mpr leads⟩

theorem tinted_of_resolve {brush : Brush} (resolved : theme.styles.resolve name = some brush) :
    brush.Tinted := by
  rw [theme.styles_eq, Sheet.resolve_eq_some_iff] at resolved
  obtain ⟨last, found⟩ := resolved.exists_concrete
  exact tinted_deriveStyles _ _ found

theorem write_eq_writeOr (known : name ∈ baseNames ++ partNames) (rendition : Rendition)
    (missing : String → String → String) :
    theme.styles.write rendition name = theme.styles.writeOr rendition missing name := by
  obtain ⟨brush, resolved⟩ := theme.exists_brush known
  rw [Sheet.write_eq_writeOr, Sheet.writeOr_eq_of_resolve resolved]

theorem writeOr_colored_ne_empty (known : name ∈ baseNames ++ partNames)
    (missing : String → String → String) (text : String) :
    theme.styles.writeOr .colored missing name text ≠ "" := by
  obtain ⟨brush, resolved⟩ := theme.exists_brush known
  rw [Sheet.writeOr, resolved]
  exact (theme.tinted_of_resolve resolved).paint_ne_empty text

/-- A piece is written as nothing only if it is empty and no marks are put around it. -/
theorem write_eq_empty_iff (known : name ∈ baseNames ++ partNames) {rendition : Rendition}
    {text : String} :
    theme.styles.write rendition name text = "" ↔ text = "" ∧ rendition.marks = false := by
  rw [theme.write_eq_writeOr known rendition rendition.marked]
  cases colored : rendition.isColored with
  | true =>
      obtain rfl := Rendition.eq_colored colored
      simp [theme.writeOr_colored_ne_empty known, Rendition.marks, colored]
  | false =>
      rw [Sheet.writeOr_marked _ colored, Rendition.marks, colored, Bool.false_or]
      unfold Rendition.marked
      cases rendition.isTagged <;> simp

theorem shows_writeOr (name : String) {text : String} (plain : Escape.Plain text.toList) :
    Shows (theme.styles.writeOr .colored (Rendition.marked .colored) name text) text := by
  unfold Sheet.writeOr
  cases resolved : theme.styles.resolve name with
  | none => exact .of_plain plain
  | some brush => exact Brush.shows_paint (theme.tinted_of_resolve resolved).inPalette plain

theorem breaks_write (known : name ∈ baseNames ++ partNames) (rendition : Rendition)
    (text : String) : breaks (theme.styles.write rendition name text) = breaks text := by
  obtain ⟨brush, resolved⟩ := theme.exists_brush known
  have unbroken : ∀ name ∈ baseNames ++ partNames, breaks name = 0 := by decide
  exact Sheet.breaks_write resolved (unbroken name known) rendition text

end Definition

end WalletScreens.Theme

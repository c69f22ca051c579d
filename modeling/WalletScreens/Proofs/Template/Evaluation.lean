import WalletScreens.Template.Render

/-!
What templates write.

With the equations here `simp` runs a template on data of known fields: names are looked up, and
the filters of the screens are applied to arguments that convert.
-/

namespace WalletScreens.Template

open Style Text

variable {surface : Surface}

@[simp] theorem except_bind_ok {ε α β : Type} (value : α) (next : α → Except ε β) :
    (Except.ok value >>= next) = next value := rfl

@[simp] theorem except_pure {ε α : Type} (value : α) :
    (pure value : Except ε α) = .ok value := rfl

@[simp] theorem except_map_ok {ε α β : Type} (value : α) (f : α → β) :
    (Except.ok value : Except ε α).map f = .ok (f value) := rfl

@[simp] theorem except_mapError_ok {ε δ α : Type} (value : α) (f : ε → δ) :
    (Except.ok value : Except ε α).mapError f = .ok value := rfl

attribute [simp] render Node.renderAll Node.render Surface.emitted Expr.eval
  Argument.evalUnnamed Argument.evalNamed Target.assign Scope.get Scope.assign Json.Value.field?
  List.lookup_cons Value.ofJson

namespace Filter

theorem applyNamed_style {sheet : Sheet} (styled : surface.styles = some sheet)
    (subject name : Value) :
    applyNamed surface "style" subject [(false, name)] [] =
      .ok (sheet.write surface.rendition name.toText subject.toText) := by
  simp [applyNamed, passAll, passEach, ofName?, apply, applyOne, sole, text?, applyStyle, styled]

theorem columns?_natural {columns : Nat} (fits : columns ≤ wordLimit) :
    columns? (.value (.whole columns)) = some columns := by
  have within : (0 : Int) ≤ columns ∧ (columns : Int) ≤ wordLimit := by omega
  rw [columns?, if_pos within, Int.toNat_natCast]

theorem applyNamed_truncateAt {columns : Nat} (fits : columns ≤ wordLimit) (subject : Value) :
    applyNamed surface "truncate_at" subject [(false, .whole columns)] [] =
      .ok (truncate subject.toText columns) := by
  simp [applyNamed, passAll, passEach, ofName?, apply, applyOne, sole, columns?_natural fits]

theorem applyNamed_padRight {columns : Nat} (fits : columns ≤ wordLimit) (subject : Value) :
    applyNamed surface "pad_right" subject [(false, .whole columns)] [] =
      .ok (Text.padRight subject.toText columns) := by
  simp [applyNamed, passAll, passEach, ofName?, apply, applyOne, sole, columns?_natural fits]

end Filter

end WalletScreens.Template

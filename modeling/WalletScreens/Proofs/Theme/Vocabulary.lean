import WalletScreens.Proofs.Style.Sheet
import WalletScreens.Theme.Definition

/-!
The vocabulary of the screens.

The names of a derived sheet are the same for all colours and sizes.  Those of colours and text
variants lead to brushes of their own; those of parts lead to a brush or to one of the former.
-/

namespace WalletScreens.Theme

open Style

/-- The names of colours and text variants. -/
def baseNames : List String :=
  ["primary", "primary.light", "primary.dark", "secondary", "error", "error.dark", "success",
    "text", "text.secondary", "text.disabled", "divider", "h3", "h4", "h5", "subtitle1", "body1",
    "caption"]

/-- The names of the parts of a screen. -/
def partNames : List String :=
  ["headline", "logo", "mode", "card.name", "card.address", "card.coins", "card.votes",
    "card.marker", "card.action", "card.add", "info.label", "info.content", "info.large", "button",
    "button.disabled", "tx.icon", "tx.in", "tx.out", "field.label", "field.value",
    "field.placeholder", "error.border"]

variable (palette : Palette) (typography : Typography)

theorem names_base :
    (colorStyles palette ++ variantStyles palette typography).map Prod.fst = baseNames := rfl

theorem names_parts : (partStyles palette typography).map Prod.fst = partNames := rfl

theorem nodup_names : (baseNames ++ partNames).Nodup := by decide +kernel

theorem entries_deriveStyles :
    (deriveStyles palette typography).entries =
      (colorStyles palette ++ variantStyles palette typography) ++
        partStyles palette typography := by
  refine (Sheet.entries_foldl_add _ {} ?_).trans (List.nil_append _)
  have named : (colorStyles palette ++ variantStyles palette typography ++
      partStyles palette typography).map Prod.fst = baseNames ++ partNames := rfl
  rw [named]
  exact nodup_names

theorem names_deriveStyles :
    (deriveStyles palette typography).names = baseNames ++ partNames := by
  rw [Sheet.names, entries_deriveStyles, List.map_append, names_base, names_parts]

theorem base_concrete :
    ∀ style ∈ colorStyles palette ++ variantStyles palette typography,
      ∃ brush, style.2 = .concrete brush := by
  simp [colorStyles, variantStyles]

theorem parts_lead :
    ∀ style ∈ partStyles palette typography, ∀ target,
      style.2 = .sameAs target → target ∈ baseNames := by
  simp [partStyles, baseNames]

/-- A name in `baseNames` leads to a brush at once. -/
theorem lookup?_base {name : String} (member : name ∈ baseNames) :
    ∃ brush, (deriveStyles palette typography).lookup? name = some (.concrete brush) := by
  rw [← names_base palette typography] at member
  obtain ⟨⟨_, entry⟩, found, rfl⟩ := List.mem_map.mp member
  obtain ⟨brush, rfl⟩ := base_concrete palette typography _ found
  refine ⟨brush, Sheet.lookup?_of_mem ?_ ?_⟩
  · rw [names_deriveStyles]
    exact nodup_names
  · rw [entries_deriveStyles]
    exact List.mem_append_left _ found

/-- Every name of a derived sheet leads to a brush. -/
theorem faultFrom_deriveStyles :
    ∀ name ∈ (deriveStyles palette typography).names,
      (deriveStyles palette typography).faultFrom name = none := by
  intro name member
  have distinct : (deriveStyles palette typography).names.Nodup := by
    rw [names_deriveStyles]
    exact nodup_names
  rw [names_deriveStyles] at member
  rcases List.mem_append.mp member with base | part
  · obtain ⟨brush, found⟩ := lookup?_base palette typography base
    exact Sheet.faultFrom_concrete found
  · rw [← names_parts palette typography] at part
    obtain ⟨⟨_, entry⟩, listed, rfl⟩ := List.mem_map.mp part
    have found := Sheet.lookup?_of_mem distinct (by
      rw [entries_deriveStyles]
      exact List.mem_append_right _ listed)
    cases entry with
    | concrete brush => exact Sheet.faultFrom_concrete found
    | sameAs target =>
        have leads := parts_lead palette typography _ listed target rfl
        obtain ⟨brush, concrete⟩ := lookup?_base palette typography leads
        refine Sheet.faultFrom_sameAs found ?_ concrete
        rintro rfl
        exact List.disjoint_of_nodup_append nodup_names leads part

theorem Definition.validate_eq_ok (definition : Definition) : definition.validate = .ok () := by
  rw [Definition.validate, definition.styles_eq]
  exact (Sheet.validate_eq_ok_iff _).mpr (faultFrom_deriveStyles _ _)

end WalletScreens.Theme

import Mathlib.Tactic.SplitIfs
import WalletScreens.Theme.Catalog

/-!
The paths that name the colours of a palette.

A path is the name of a group, which stands for its main shade, or that name, a dot and the name of
a shade that the group has.  A palette finds a colour by its paths and by no other text, but for
the divider, whose shade is not looked at.
-/

namespace WalletScreens.Theme

/-- The shades of a group, by their names. -/
def ColorRole.shades (role : ColorRole) : List (String × Rgb) :=
  [("light", role.light), ("main", role.main), ("dark", role.dark),
    ("contrast_text", role.contrastText)]

def TextColors.shades (colors : TextColors) : List (String × Rgb) :=
  [("main", colors.primary), ("primary", colors.primary), ("secondary", colors.secondary),
    ("disabled", colors.disabled)]

def Background.shades (colors : Background) : List (String × Rgb) :=
  [("main", colors.default), ("default", colors.default), ("paper", colors.paper)]

namespace Palette

/-- The groups of a palette, each with the shades that it has. -/
def groups (palette : Palette) : List (String × List (String × Rgb)) :=
  [("primary", palette.primary.shades), ("secondary", palette.secondary.shades),
    ("error", palette.error.shades), ("success", palette.success.shades),
    ("text", palette.text.shades), ("background", palette.background.shades),
    ("divider", [("main", palette.divider)])]

/-- The names of the groups and of their shades, in any palette. -/
def shadeNames : List (String × List String) :=
  [("primary", ["light", "main", "dark", "contrast_text"]),
    ("secondary", ["light", "main", "dark", "contrast_text"]),
    ("error", ["light", "main", "dark", "contrast_text"]),
    ("success", ["light", "main", "dark", "contrast_text"]),
    ("text", ["main", "primary", "secondary", "disabled"]),
    ("background", ["main", "default", "paper"]), ("divider", ["main"])]

theorem names_groups (palette : Palette) :
    (palette.groups.map fun entry => (entry.1, entry.2.map Prod.fst)) = shadeNames := rfl

/-- The path names a place of the palette, and this is the colour in it. -/
inductive Names (palette : Palette) : String → Rgb → Prop where
  | group {group : String} {shades : List (String × Rgb)} {color : Rgb}
      (listed : (group, shades) ∈ palette.groups) (main : ("main", color) ∈ shades) :
      Names palette group color
  | shade {group shade : String} {shades : List (String × Rgb)} {color : Rgb}
      (listed : (group, shades) ∈ palette.groups) (member : (shade, color) ∈ shades) :
      Names palette (group ++ "." ++ shade) color

end Palette

section

variable {chars group shade : List Char}

theorem splitDot_eq_none (undotted : '.' ∉ chars) : splitDot chars = none := by
  induction chars with
  | nil => rfl
  | cons c rest ih =>
      obtain ⟨other, others⟩ := List.ne_and_not_mem_of_not_mem_cons undotted
      rw [splitDot, if_neg (Ne.symm other), ih others]
      rfl

theorem splitDot_append (undotted : '.' ∉ group) :
    splitDot (group ++ '.' :: shade) = some (group, shade) := by
  induction group with
  | nil => rfl
  | cons c rest ih =>
      obtain ⟨other, others⟩ := List.ne_and_not_mem_of_not_mem_cons undotted
      rw [List.cons_append, splitDot, if_neg (Ne.symm other), ih others]
      rfl

end

section

variable {group shade : String}

theorem splitRole_group (undotted : '.' ∉ group.toList) : splitRole group = (group, "main") := by
  rw [splitRole, splitDot_eq_none undotted]

theorem toList_path (group shade : String) :
    (group ++ "." ++ shade).toList = group.toList ++ '.' :: shade.toList := by
  rw [String.toList_append, String.toList_append, List.append_assoc]
  rfl

theorem splitRole_shade (undotted : '.' ∉ group.toList) :
    splitRole (group ++ "." ++ shade) = (group, shade) := by
  rw [splitRole, toList_path, splitDot_append undotted]
  simp only [String.ofList_toList]

/-- A path has no dot, or goes on behind the first one. -/
theorem splitRole_cases (role : String) :
    '.' ∉ role.toList ∧ splitRole role = (role, "main") ∨
      ∃ group shade, '.' ∉ group.toList ∧ role = group ++ "." ++ shade ∧
        splitRole role = (group, shade) := by
  by_cases dotted : '.' ∈ role.toList
  · obtain ⟨group, shade, spelled, undotted⟩ := List.eq_append_cons_of_mem dotted
    have parts : role = String.ofList group ++ "." ++ String.ofList shade := by
      rw [← String.toList_inj, toList_path, spelled, String.toList_ofList, String.toList_ofList]
    rw [← String.toList_ofList (l := group)] at undotted
    exact .inr ⟨_, _, undotted, parts, parts ▸ splitRole_shade undotted⟩
  · exact .inl ⟨dotted, splitRole_group dotted⟩

end

section

variable {shade : String} {color : Rgb}

theorem ColorRole.mem_shades_iff {role : ColorRole} :
    (shade, color) ∈ role.shades ↔ role.shade? shade = some color := by
  simp only [shades, shade?, List.mem_cons, List.not_mem_nil, or_false, Prod.mk.injEq]
  grind

theorem TextColors.mem_shades_iff {colors : TextColors} :
    (shade, color) ∈ colors.shades ↔ colors.shade? shade = some color := by
  simp only [shades, shade?, List.mem_cons, List.not_mem_nil, or_false, Prod.mk.injEq]
  grind

theorem Background.mem_shades_iff {colors : Background} :
    (shade, color) ∈ colors.shades ↔ colors.shade? shade = some color := by
  simp only [shades, shade?, List.mem_cons, List.not_mem_nil, or_false, Prod.mk.injEq]
  grind

end

namespace Palette

variable {palette : Palette} {group shade role : String} {color : Rgb}
  {shades : List (String × Rgb)}

theorem shade?_of_listed (listed : (group, shades) ∈ palette.groups)
    (member : (shade, color) ∈ shades) : palette.shade? group shade = some color := by
  simp only [groups, List.mem_cons, Prod.mk.injEq, List.not_mem_nil, or_false] at listed
  rcases listed with ⟨rfl, rfl⟩ | ⟨rfl, rfl⟩ | ⟨rfl, rfl⟩ | ⟨rfl, rfl⟩ | ⟨rfl, rfl⟩ | ⟨rfl, rfl⟩ |
    ⟨rfl, rfl⟩
  · exact ColorRole.mem_shades_iff.mp member
  · exact ColorRole.mem_shades_iff.mp member
  · exact ColorRole.mem_shades_iff.mp member
  · exact ColorRole.mem_shades_iff.mp member
  · exact TextColors.mem_shades_iff.mp member
  · exact Background.mem_shades_iff.mp member
  · obtain ⟨-, rfl⟩ := Prod.mk.inj (List.mem_singleton.mp member)
    rfl

theorem listed_of_shade? (found : palette.shade? group shade = some color)
    (other : group = "divider" → shade = "main") :
    ∃ shades, (group, shades) ∈ palette.groups ∧ (shade, color) ∈ shades := by
  unfold shade? at found
  split_ifs at found with primary secondary error success text background divider
  · exact ⟨_, by simp [groups, primary], ColorRole.mem_shades_iff.mpr found⟩
  · exact ⟨_, by simp [groups, secondary], ColorRole.mem_shades_iff.mpr found⟩
  · exact ⟨_, by simp [groups, error], ColorRole.mem_shades_iff.mpr found⟩
  · exact ⟨_, by simp [groups, success], ColorRole.mem_shades_iff.mpr found⟩
  · exact ⟨_, by simp [groups, text], TextColors.mem_shades_iff.mpr found⟩
  · exact ⟨_, by simp [groups, background], Background.mem_shades_iff.mpr found⟩
  · cases found
    rw [other divider, divider]
    exact ⟨[("main", palette.divider)], by simp [groups], List.mem_singleton_self _⟩

theorem undotted_of_listed (listed : (group, shades) ∈ palette.groups) : '.' ∉ group.toList := by
  have undotted : ∀ entry ∈ shadeNames, '.' ∉ entry.1.toList := by decide
  refine undotted (group, shades.map Prod.fst) ?_
  rw [← names_groups palette]
  exact List.mem_map_of_mem (f := fun entry => (entry.1, entry.2.map Prod.fst)) listed

/-- A path names what is listed under the two parts that it is read as. -/
theorem names_iff_splitRole :
    palette.Names role color ↔
      ∃ shades, ((splitRole role).1, shades) ∈ palette.groups ∧
        ((splitRole role).2, color) ∈ shades := by
  constructor
  · rintro (⟨listed, main⟩ | ⟨listed, member⟩)
    · rw [splitRole_group (undotted_of_listed listed)]
      exact ⟨_, listed, main⟩
    · rw [splitRole_shade (undotted_of_listed listed)]
      exact ⟨_, listed, member⟩
  · rintro ⟨shades, listed, member⟩
    rcases splitRole_cases role with ⟨-, split⟩ | ⟨group, shade, -, rfl, split⟩
    · rw [split] at listed member
      exact .group listed member
    · rw [split] at listed member
      exact .shade listed member

/-- Every path on display names a colour, whatever the palette. -/
theorem exists_names_of_mem_rolePaths (palette : Palette) (displayed : role ∈ rolePaths) :
    ∃ color, palette.Names role color := by
  have known : ∀ path ∈ rolePaths, ∃ entry ∈ shadeNames,
      entry.1 = (splitRole path).1 ∧ (splitRole path).2 ∈ entry.2 := by
    decide +kernel
  obtain ⟨_, among, group, shade⟩ := known role displayed
  rw [← names_groups palette] at among
  obtain ⟨⟨_, shades⟩, listed, rfl⟩ := List.mem_map.mp among
  obtain ⟨⟨_, color⟩, member, named⟩ := List.mem_map.mp shade
  dsimp only at group named
  subst group named
  exact ⟨color, names_iff_splitRole.mpr ⟨shades, listed, member⟩⟩

/-- A path is found just if it names a colour, and gives that colour, unless it goes on behind the
dot of the divider: whatever stands there, the divider is found. -/
theorem path_names_color (palette : Palette) (role : String) :
    ((∀ shade, role = "divider" ++ "." ++ shade → shade = "main") →
      ∀ color, palette.color role = some color ↔ palette.Names role color) ∧
    ∀ shade, palette.color ("divider" ++ "." ++ shade) = some palette.divider := by
  have divided (shade : String) : splitRole ("divider" ++ "." ++ shade) = ("divider", shade) :=
    splitRole_shade (by decide)
  refine ⟨fun known color => ?_, fun shade => ?_⟩
  · rw [names_iff_splitRole]
    constructor
    · intro found
      refine listed_of_shade? found fun divider => ?_
      -- A bare `divider` is read with the main shade, and any other shade of it is excluded.
      rcases splitRole_cases role with ⟨-, split⟩ | ⟨group, shade, -, path, split⟩
      · rw [split]
      · rw [split] at divider ⊢
        exact known shade (divider ▸ path)
    · rintro ⟨shades, listed, member⟩
      exact shade?_of_listed listed member
  · rw [color, divided]
    rfl

/-- The main shade of the text is its primary one, and a shade has no shades of its own. -/
theorem path_of_main_text :
    let palette := Catalog.darkPalette
    let known (role : String) := ∀ shade, role = "divider" ++ "." ++ shade → shade = "main"
    known "text.main" ∧ palette.color "text.main" = some palette.text.primary ∧
      known "text.main.primary" ∧ ∀ color, ¬ palette.Names "text.main.primary" color := by
  intro palette known
  have text (rest : String) : known ("text" ++ "." ++ rest) := by
    intro shade same
    rw [← String.toList_inj, toList_path, toList_path] at same
    simp at same
  have listed : ("text", palette.text.shades) ∈ palette.groups := by simp [groups]
  have primary : palette.Names ("text" ++ "." ++ "main") palette.text.primary :=
    .shade listed (by simp [TextColors.shades])
  have missing : palette.color "text.main.primary" = none := by decide +kernel
  refine ⟨text "main", ((path_names_color palette _).1 (text "main") _).mpr primary,
    text "main.primary", fun color named => ?_⟩
  have found := ((path_names_color palette _).1 (text "main.primary") color).mpr named
  cases missing.symm.trans found

/-- The divider has no shade of this name, and yet it is found under it. -/
theorem unnamed_path_of_divider :
    ¬ ∀ (palette : Palette) (role : String) (color : Rgb),
      palette.color role = some color ↔ palette.Names role color := by
  intro named
  have path : splitRole "divider.ultra" = ("divider", "ultra") := by decide +kernel
  have found : Catalog.darkPalette.color "divider.ultra" = some (.ofHex 0x4f4f4f) := by
    decide +kernel
  obtain ⟨shades, listed, member⟩ := names_iff_splitRole.mp ((named _ _ _).mp found)
  rw [path] at listed member
  obtain rfl : shades = [("main", Catalog.darkPalette.divider)] := by simpa [groups] using listed
  simp at member

end Palette

end WalletScreens.Theme

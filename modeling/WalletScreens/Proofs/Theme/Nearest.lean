import WalletScreens.Theme.Color

/-!
How near a colour is to its entry in the palette of 256.

Among the entries that serve a colour one is nearest if no other differs less from it, by the sum of
the squared differences of red, green and blue.  A channel is put on a level of the cube as if the
levels were evenly spaced, and a gray on a step of the ramp as if that reached up to white, so what
is taken is a nearest entry for some brightnesses only.  On the cube each channel decides for
itself.
-/

namespace WalletScreens.Theme.Rgb

/-- The brightness of a level of the cube. -/
def cubeShade (level : Nat) : Nat :=
  if level = 0 then 0 else 55 + 40 * level

/-- The brightness of a step of the gray ramp. -/
def rampShade (step : Nat) : Nat :=
  8 + 10 * step

/-- Red, green and blue of an entry: the cube begins at 16, and behind it, at 232, the ramp. -/
def channels (entry : Nat) : Nat × Nat × Nat :=
  if entry < 232 then
    (cubeShade ((entry - 16) / 36), cubeShade ((entry - 16) / 6 % 6), cubeShade ((entry - 16) % 6))
  else (rampShade (entry - 232), rampShade (entry - 232), rampShade (entry - 232))

/-- The square of what two brightnesses differ by. -/
def gap (first second : Nat) : Nat :=
  ((first : Int) - second).natAbs * ((first : Int) - second).natAbs

/-- What a channel differs from a level of the cube. -/
def levelGap (channel : UInt8) (level : Nat) : Nat :=
  gap channel.toNat (cubeShade level)

def distance (color : Rgb) (entry : Nat) : Nat :=
  gap color.red.toNat (channels entry).1 + gap color.green.toNat (channels entry).2.1 +
    gap color.blue.toNat (channels entry).2.2

def IsGray (color : Rgb) : Prop :=
  color.red = color.green ∧ color.green = color.blue

instance (color : Rgb) : Decidable color.IsGray :=
  inferInstanceAs (Decidable (color.red = color.green ∧ color.green = color.blue))

/-- The cube has six levels of red, of green and of blue. -/
def cubeEntries : List Nat :=
  List.range' 16 216

/-- The ramp, and black and white of the cube. -/
def grayEntries : List Nat :=
  16 :: 231 :: List.range' 232 24

/-- The entries that serve a colour. -/
def family (color : Rgb) : List Nat :=
  if color.IsGray then grayEntries else cubeEntries

structure IsNearest (color : Rgb) (entry : Nat) : Prop where
  mem_family : entry ∈ color.family
  least : ∀ other ∈ color.family, color.distance entry ≤ color.distance other

/-- The brightnesses whose level of the cube is a nearest one. -/
def cubeRanges : List (Nat × Nat) :=
  [(0, 47), (51, 101), (115, 152), (155, 195), (204, 235), (255, 255)]

/-- The brightnesses of the grays whose entry is a nearest one. -/
def rampRanges : List (Nat × Nat) :=
  [(0, 4), (8, 13), (19, 23), (29, 33), (39, 43), (50, 53), (60, 63), (70, 73), (81, 83), (91, 93),
    (101, 103), (111, 113), (122, 123), (132, 133), (142, 143), (153, 153), (163, 163), (173, 173),
    (183, 183), (245, 246), (249, 255)]

def Within (ranges : List (Nat × Nat)) (brightness : Nat) : Prop :=
  ∃ range ∈ ranges, range.1 ≤ brightness ∧ brightness ≤ range.2

instance (ranges : List (Nat × Nat)) (brightness : Nat) : Decidable (Within ranges brightness) :=
  inferInstanceAs (Decidable (∃ range ∈ ranges, _))

theorem level_nearest_iff (channel : UInt8) :
    (∀ level < 6, levelGap channel (cubeLevel channel) ≤ levelGap channel level) ↔
      Within cubeRanges channel.toNat := by
  have all : ∀ brightness < 256,
      (∀ level < 6, gap brightness (cubeShade (brightness * 5 / 255)) ≤
        gap brightness (cubeShade level)) ↔ Within cubeRanges brightness := by
    decide +kernel
  exact all channel.toNat channel.toNat_lt

/-- Three summands that are chosen apart have the least sum if each is least. -/
theorem sum_least_iff {first second third : Nat → Nat} {count a b c : Nat} (a_lt : a < count)
    (b_lt : b < count) (c_lt : c < count) :
    (∀ x < count, ∀ y < count, ∀ z < count,
        first a + second b + third c ≤ first x + second y + third z) ↔
      (∀ x < count, first a ≤ first x) ∧ (∀ y < count, second b ≤ second y) ∧
        ∀ z < count, third c ≤ third z := by
  constructor
  · intro least
    refine ⟨fun x lt => ?_, fun y lt => ?_, fun z lt => ?_⟩
    · have other := least x lt b b_lt c c_lt
      omega
    · have other := least a a_lt y lt c c_lt
      omega
    · have other := least a a_lt b b_lt z lt
      omega
  · rintro ⟨least_first, least_second, least_third⟩ x x_lt y y_lt z z_lt
    exact Nat.add_le_add (Nat.add_le_add (least_first x x_lt) (least_second y y_lt))
      (least_third z z_lt)

section

variable {color : Rgb} {red green blue entry : Nat}

theorem distance_cube (color : Rgb) (red_lt : red < 6) (green_lt : green < 6) (blue_lt : blue < 6) :
    color.distance (16 + 36 * red + 6 * green + blue) =
      levelGap color.red red + levelGap color.green green + levelGap color.blue blue := by
  have place : 16 + 36 * red + 6 * green + blue - 16 = 36 * red + 6 * green + blue := by omega
  have first : (36 * red + 6 * green + blue) / 36 = red := by omega
  have second : (36 * red + 6 * green + blue) / 6 % 6 = green := by omega
  have third : (36 * red + 6 * green + blue) % 6 = blue := by omega
  rw [distance, channels, if_pos (by omega), place, first, second, third]
  rfl

theorem exists_levels (above : 16 ≤ entry) (below : entry ≤ 231) :
    ∃ red < 6, ∃ green < 6, ∃ blue < 6, entry = 16 + 36 * red + 6 * green + blue :=
  ⟨(entry - 16) / 36, by omega, (entry - 16) / 6 % 6, by omega, (entry - 16) % 6, by omega,
    by omega⟩

theorem mem_cubeEntries_iff : entry ∈ cubeEntries ↔ 16 ≤ entry ∧ entry ≤ 231 := by
  rw [cubeEntries, List.mem_range'_1]
  omega

theorem mem_grayEntries_iff :
    entry ∈ grayEntries ↔ entry = 16 ∨ entry = 231 ∨ 232 ≤ entry ∧ entry ≤ 255 := by
  rw [grayEntries, List.mem_cons, List.mem_cons, List.mem_range'_1]
  omega

theorem family_cube (colored : ¬ color.IsGray) : color.family = cubeEntries :=
  if_neg colored

theorem family_gray (gray : color.IsGray) : color.family = grayEntries :=
  if_pos gray

theorem terminalEntry_cube (colored : ¬ color.IsGray) :
    color.terminalEntry =
      16 + 36 * cubeLevel color.red + 6 * cubeLevel color.green + cubeLevel color.blue :=
  if_neg colored

theorem terminalEntry_gray (gray : color.IsGray) :
    color.terminalEntry = grayEntry color.red.toNat :=
  if_pos gray

theorem terminalEntry_mem_family (color : Rgb) : color.terminalEntry ∈ color.family := by
  by_cases gray : color.IsGray
  · have bounded := color.red.toNat_lt
    rw [family_gray gray, mem_grayEntries_iff, terminalEntry_gray gray, grayEntry]
    split
    · exact .inl rfl
    · split
      · exact .inr (.inl rfl)
      · exact .inr (.inr (by omega))
  · have red_lt := cubeLevel_lt color.red
    have green_lt := cubeLevel_lt color.green
    have blue_lt := cubeLevel_lt color.blue
    rw [family_cube gray, mem_cubeEntries_iff, terminalEntry_cube gray]
    omega

theorem isNearest_cube_iff (colored : ¬ color.IsGray) :
    color.IsNearest color.terminalEntry ↔
      Within cubeRanges color.red.toNat ∧ Within cubeRanges color.green.toNat ∧
        Within cubeRanges color.blue.toNat := by
  have own := distance_cube color (cubeLevel_lt color.red) (cubeLevel_lt color.green)
    (cubeLevel_lt color.blue)
  rw [← level_nearest_iff, ← level_nearest_iff, ← level_nearest_iff, ← sum_least_iff
    (cubeLevel_lt color.red) (cubeLevel_lt color.green) (cubeLevel_lt color.blue), ← own,
    ← terminalEntry_cube colored]
  -- Now both sides compare the same sums, here over entries and there over levels.
  constructor
  · rintro ⟨-, least⟩ red red_lt green green_lt blue blue_lt
    rw [← distance_cube color red_lt green_lt blue_lt]
    refine least _ ?_
    rw [family_cube colored, mem_cubeEntries_iff]
    omega
  · intro least
    refine ⟨terminalEntry_mem_family color, fun other member => ?_⟩
    rw [family_cube colored, mem_cubeEntries_iff] at member
    obtain ⟨red, red_lt, green, green_lt, blue, blue_lt, rfl⟩ := exists_levels member.1 member.2
    rw [distance_cube color red_lt green_lt blue_lt]
    exact least red red_lt green green_lt blue blue_lt

/-- The entries for grays show grays. -/
theorem distance_gray (gray : color.IsGray) (member : entry ∈ grayEntries) :
    color.distance entry = 3 * gap color.red.toNat (channels entry).1 := by
  have alike : (channels entry).2.1 = (channels entry).1 ∧
      (channels entry).2.2 = (channels entry).1 := by
    rcases mem_grayEntries_iff.mp member with rfl | rfl | ⟨above, -⟩
    · exact ⟨rfl, rfl⟩
    · exact ⟨rfl, rfl⟩
    · rw [channels, if_neg (Nat.not_lt.mpr above)]
      exact ⟨rfl, rfl⟩
  rw [distance, alike.1, alike.2, ← gray.2, ← gray.1]
  omega

/-- A gray is compared by its one brightness, of which there are 256. -/
theorem step_nearest_iff (channel : UInt8) :
    (∀ other ∈ grayEntries, gap channel.toNat (channels (grayEntry channel.toNat)).1 ≤
        gap channel.toNat (channels other).1) ↔ Within rampRanges channel.toNat := by
  have all : ∀ brightness < 256,
      (∀ other ∈ grayEntries, gap brightness (channels (grayEntry brightness)).1 ≤
        gap brightness (channels other).1) ↔ Within rampRanges brightness := by
    decide +kernel
  exact all channel.toNat channel.toNat_lt

theorem isNearest_gray_iff (gray : color.IsGray) :
    color.IsNearest color.terminalEntry ↔ Within rampRanges color.red.toNat := by
  have own := terminalEntry_mem_family color
  rw [family_gray gray] at own
  rw [← step_nearest_iff, ← terminalEntry_gray gray]
  constructor
  · rintro ⟨-, least⟩ other member
    have nearer := least other (family_gray gray ▸ member)
    rw [distance_gray gray own, distance_gray gray member] at nearer
    omega
  · intro least
    refine ⟨terminalEntry_mem_family color, fun other member => ?_⟩
    rw [family_gray gray] at member
    rw [distance_gray gray own, distance_gray gray member]
    exact Nat.mul_le_mul_left 3 (least other member)

end

/-- The entry that is taken serves the colour.  No other that serves it is strictly nearer just if
this holds of the level of each channel, or for a gray of its step; for which brightnesses it does,
the ranges say. -/
theorem nearest_entry_by_brightness (color : Rgb) :
    color.terminalEntry ∈ color.family ∧
      (color.IsNearest color.terminalEntry ↔
        if color.IsGray then Within rampRanges color.red.toNat
        else Within cubeRanges color.red.toNat ∧ Within cubeRanges color.green.toNat ∧
          Within cubeRanges color.blue.toNat) := by
  refine ⟨terminalEntry_mem_family color, ?_⟩
  split
  · rename_i gray
    exact isNearest_gray_iff gray
  · rename_i colored
    exact isNearest_cube_iff colored

/-- The blue of the dark theme, and a gray one above the second step of the ramp. -/
theorem nearest_entries_of_blue_and_gray :
    (ofHex 0x0097ff).terminalEntry = 33 ∧ (ofHex 0x0097ff).IsNearest 33 ∧
      (ofHex 0x131313).terminalEntry = 233 ∧ (ofHex 0x131313).IsNearest 233 :=
  ⟨by decide, (nearest_entry_by_brightness (ofHex 0x0097ff)).2.mpr (by decide), by decide,
    (nearest_entry_by_brightness (ofHex 0x131313)).2.mpr (by decide)⟩

/-- A red that is almost full is nearest to the last level but put on the one before, and a gray
that is a step of the ramp is put on the one below. -/
theorem entries_not_nearest :
    (¬ ∀ color : Rgb, ¬ color.IsGray → color.IsNearest color.terminalEntry) ∧
      ¬ ∀ color : Rgb, color.IsGray → color.IsNearest color.terminalEntry := by
  constructor
  · intro nearest
    have nearer := (nearest ⟨254, 0, 0⟩ (by decide)).least 196 (by decide)
    exact absurd nearer (by decide)
  · intro nearest
    have nearer := (nearest ⟨18, 18, 18⟩ (by decide)).least 233 (by decide)
    exact absurd nearer (by decide)

end WalletScreens.Theme.Rgb

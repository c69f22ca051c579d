import WalletScreens.Proofs.Style.Alias

/-!
Adding a name to a sheet that is valid.

What is added under a name takes part in every chain that goes through the name, and in no other.
So the names whose chains keep clear of it lead where they led, and all others lead to a brush
again if the name itself does.
-/

namespace WalletScreens.Style.Sheet

variable {sheet : Sheet} {name other target : String} {entry : Entry} {brush : Brush}

theorem lookup?_add (sheet : Sheet) (name : String) (entry : Entry) (asked : String) :
    (sheet.add name entry).lookup? asked =
      if asked = name then some entry else sheet.lookup? asked :=
  lookup_put name entry sheet.entries asked

theorem lookup?_add_self (sheet : Sheet) (name : String) (entry : Entry) :
    (sheet.add name entry).lookup? name = some entry := by
  rw [lookup?_add, if_pos rfl]

theorem lookup?_add_of_ne (apart : other ≠ name) :
    (sheet.add name entry).lookup? other = sheet.lookup? other := by
  rw [lookup?_add, if_neg apart]

theorem mem_names_add :
    other ∈ (sheet.add name entry).names ↔ other = name ∨ other ∈ sheet.names := by
  rw [← has_iff, ← has_iff, has, has, lookup?_add]
  split <;> simp [*]

/-- A chain that keeps clear of a name leads where it led, whatever is added under the name. -/
theorem leadsTo_add_iff (clear : ¬ Relation.ReflTransGen sheet.SameAs other name) :
    (sheet.add name entry).LeadsTo other brush ↔ sheet.LeadsTo other brush := by
  have apart {reached : String} (path : Relation.ReflTransGen sheet.SameAs other reached) :
      (sheet.add name entry).lookup? reached = sheet.lookup? reached := by
    refine lookup?_add_of_ne ?_
    rintro rfl
    exact clear path
  constructor
  · intro leads
    induction leads with
    | concrete found => exact .concrete ((apart .refl).symm.trans found)
    | sameAs link _ ih =>
        have link := (apart .refl).symm.trans link
        exact .sameAs link
          (ih (fun path => clear (path.head link)) fun path => apart (path.head link))
  · intro leads
    induction leads with
    | concrete found => exact .concrete ((apart .refl).trans found)
    | sameAs link _ ih =>
        exact .sameAs ((apart .refl).trans link)
          (ih (fun path => clear (path.head link)) fun path => apart (path.head link))

/-- Where what is added leads to a brush, so do all chains that went to one before: they go on as
they did until they come to the name. -/
theorem LeadsTo.add (leads : sheet.LeadsTo other brush)
    (added : ∃ own, (sheet.add name entry).LeadsTo name own) :
    ∃ own, (sheet.add name entry).LeadsTo other own := by
  induction leads with
  | @concrete current _ found =>
      by_cases same : current = name
      · rwa [same]
      · exact ⟨_, .concrete ((lookup?_add_of_ne same).trans found)⟩
  | @sameAs current _ _ link _ ih =>
      by_cases same : current = name
      · rwa [same]
      · obtain ⟨own, onward⟩ := ih
        exact ⟨own, .sameAs ((lookup?_add_of_ne same).trans link) onward⟩

/-- A chain that comes to a name comes to it again after the name is changed. -/
theorem reaches_add (path : Relation.ReflTransGen sheet.SameAs other name) :
    Relation.ReflTransGen (sheet.add name entry).SameAs other name := by
  induction path using Relation.ReflTransGen.head_induction_on with
  | refl => exact .refl
  | @head current next link _ ih =>
      by_cases same : current = name
      · rw [same]
      · exact ih.head ((lookup?_add_of_ne same).trans link)

section

variable (valid : sheet.validate = .ok ())
include valid

theorem leadsTo_of_valid (registered : name ∈ sheet.names) : ∃ brush, sheet.LeadsTo name brush :=
  (validate_eq_ok_iff_leadsTo sheet).mp valid name registered

/-- A valid sheet stays valid if what is added leads to a brush. -/
theorem validate_add_iff_leadsTo :
    (sheet.add name entry).validate = .ok () ↔ ∃ own, (sheet.add name entry).LeadsTo name own := by
  rw [validate_eq_ok_iff_leadsTo]
  constructor
  · exact fun lead => lead name (mem_names_add.mpr (.inl rfl))
  · intro added other registered
    rcases mem_names_add.mp registered with rfl | registered
    · exact added
    · obtain ⟨brush, leads⟩ := leadsTo_of_valid valid registered
      exact leads.add added

theorem validate_add_concrete (name : String) (brush : Brush) :
    (sheet.add name (.concrete brush)).validate = .ok () :=
  (validate_add_iff_leadsTo valid).mpr ⟨brush, .concrete (lookup?_add_self sheet name _)⟩

/-- An alias leads to a brush if its target did and the way there does not come back to it. -/
theorem validate_add_sameAs_iff (name target : String) :
    (sheet.add name (.sameAs target)).validate = .ok () ↔
      sheet.has target = true ∧ ¬ Relation.ReflTransGen sheet.SameAs target name := by
  have link : (sheet.add name (.sameAs target)).SameAs name target := lookup?_add_self sheet name _
  rw [validate_add_iff_leadsTo valid, has_iff]
  constructor
  · rintro ⟨own, leads⟩
    have clear : ¬ Relation.ReflTransGen sheet.SameAs target name := fun path =>
      leads.not_cyclic (.head' link (reaches_add path))
    rw [leadsTo_iff_of_sameAs link, leadsTo_add_iff clear] at leads
    exact ⟨leads.mem_names, clear⟩
  · rintro ⟨registered, clear⟩
    obtain ⟨brush, leads⟩ := leadsTo_of_valid valid registered
    exact ⟨brush, .sameAs link ((leadsTo_add_iff clear).mpr leads)⟩

end

theorem resolve_add_of_clear (clear : ¬ Relation.ReflTransGen sheet.SameAs other name) :
    (sheet.add name entry).resolve other = sheet.resolve other := by
  ext brush
  rw [resolve_eq_some_iff, resolve_eq_some_iff, leadsTo_add_iff clear]

/-- A brush may be added to a valid sheet under any name, and changes only what resolves by way of
the name.  An alias may be added just when its target is registered, is another name, and does not
lead back to the name. -/
theorem valid_sheet_extends (sheet : Sheet) (valid : sheet.validate = .ok ()) (name : String) :
    (∀ brush,
      (sheet.add name (.concrete brush)).validate = .ok () ∧
        (sheet.add name (.concrete brush)).resolve name = some brush ∧
        ∀ other, other ≠ name → ¬ Relation.ReflTransGen sheet.SameAs other name →
          (sheet.add name (.concrete brush)).resolve other = sheet.resolve other) ∧
      ∀ target, (sheet.add name (.sameAs target)).validate = .ok () ↔
        sheet.has target = true ∧ target ≠ name ∧
          ¬ Relation.ReflTransGen sheet.SameAs target name := by
  constructor
  · intro brush
    refine ⟨validate_add_concrete valid name brush, ?_, ?_⟩
    · rw [resolve_eq_some_iff]
      exact .concrete (lookup?_add_self sheet name _)
    · exact fun other _ clear => resolve_add_of_clear clear
  · intro target
    rw [validate_add_sameAs_iff valid]
    constructor
    · rintro ⟨registered, clear⟩
      refine ⟨registered, ?_, clear⟩
      rintro rfl
      exact clear .refl
    · rintro ⟨registered, -, clear⟩
      exact ⟨registered, clear⟩

theorem eq_of_reached_from_concrete (found : sheet.lookup? name = some (.concrete brush))
    (path : Relation.ReflTransGen sheet.SameAs name other) : other = name := by
  rcases path.cases_head with same | ⟨target, link, -⟩
  · exact same.symm
  · cases found.symm.trans link

/-- In a sheet with a chain of two aliases, the brush at its end may be replaced.  The name of the
brush cannot become an alias of the name that starts the chain, but the name in the middle may be
turned away to another. -/
theorem valid_sheet_of_chain_extends :
    let sheet := addAll {} [("card", .sameAs "accent"), ("accent", .sameAs "primary"),
      ("primary", .concrete {}), ("error", .concrete { bold := true })]
    sheet.validate = .ok () ∧
      (sheet.add "primary" (.concrete { dim := true })).validate = .ok () ∧
      (sheet.add "primary" (.concrete { dim := true })).resolve "error" =
        some { bold := true } ∧
      (sheet.add "primary" (.sameAs "card")).validate ≠ .ok () ∧
      (sheet.add "accent" (.sameAs "error")).validate = .ok () := by
  intro sheet
  have valid : sheet.validate = .ok () := (validate_eq_ok_iff sheet).mpr (by decide)
  have first : sheet.SameAs "card" "accent" := by unfold SameAs; decide
  have second : sheet.SameAs "accent" "primary" := by unfold SameAs; decide
  have back : Relation.ReflTransGen sheet.SameAs "card" "primary" := .tail (.single first) second
  have plain : sheet.lookup? "error" = some (.concrete { bold := true }) := by decide
  have alone (name : String) (apart : name ≠ "error") :
      ¬ Relation.ReflTransGen sheet.SameAs "error" name := fun path =>
    apart (eq_of_reached_from_concrete plain path)
  have resolved : sheet.resolve "error" = some { bold := true } :=
    (resolve_eq_some_iff sheet _ _).mpr (.concrete plain)
  obtain ⟨brushes, aliases⟩ := valid_sheet_extends sheet valid "primary"
  obtain ⟨-, middle⟩ := valid_sheet_extends sheet valid "accent"
  obtain ⟨stays, -, others⟩ := brushes { dim := true }
  refine ⟨valid, stays, ?_, ?_, ?_⟩
  · exact (others "error" (by decide) (alone _ (by decide))).trans resolved
  · exact fun closed => ((aliases "card").mp closed).2.2 back
  · exact (middle "error").mpr ⟨by decide, by decide, alone _ (by decide)⟩

end WalletScreens.Style.Sheet

import Mathlib.Data.List.Nodup
import Mathlib.Data.List.Perm.Subperm
import Mathlib.Logic.Relation
import WalletScreens.Proofs.Style.Sheet

/-!
Names that stand for other names.

A name leads to a brush by a finite chain of aliases.  Two walks follow such chains: one remembers
where it has been and gives up on a name seen before, the other looks at each target before it
goes there.  Neither can take more steps than there are names, and they agree on which names lead
to a brush.
-/

namespace WalletScreens.Style.Sheet

variable {sheet : Sheet} {name source target : String} {entry : Entry} {brush : Brush}

def SameAs (sheet : Sheet) (source target : String) : Prop :=
  sheet.lookup? source = some (.sameAs target)

/-- A finite chain of aliases goes from a name to a brush. -/
inductive LeadsTo (sheet : Sheet) : String → Brush → Prop where
  | concrete {name : String} {brush : Brush} (found : sheet.lookup? name = some (.concrete brush)) :
      LeadsTo sheet name brush
  | sameAs {name target : String} {brush : Brush} (link : sheet.SameAs name target)
      (leads : LeadsTo sheet target brush) : LeadsTo sheet name brush

theorem isSome_lookup_iff {entries : List (String × Entry)} :
    (entries.lookup name).isSome = true ↔ name ∈ entries.map Prod.fst := by
  rw [List.lookup_isSome_iff, List.mem_map]
  simp only [beq_iff_eq, @eq_comm _ name]

theorem has_iff (sheet : Sheet) (name : String) : sheet.has name = true ↔ name ∈ sheet.names :=
  isSome_lookup_iff

theorem mem_names_of_lookup? (found : sheet.lookup? name = some entry) : name ∈ sheet.names := by
  rw [← has_iff, has, found]
  rfl

theorem notMem_names_of_lookup? (missing : sheet.lookup? name = none) : name ∉ sheet.names := by
  rw [← has_iff, has, missing]
  exact Bool.false_ne_true

theorem SameAs.unique {other : String} (first : sheet.SameAs source target)
    (second : sheet.SameAs source other) : target = other := by
  cases first.symm.trans second
  rfl

theorem leadsTo_iff_of_concrete {own : Brush} (found : sheet.lookup? name = some (.concrete own)) :
    sheet.LeadsTo name brush ↔ own = brush := by
  constructor
  · intro leads
    cases leads with
    | concrete other => cases found.symm.trans other; rfl
    | sameAs link _ => cases found.symm.trans link
  · rintro rfl
    exact .concrete found

theorem leadsTo_iff_of_sameAs (link : sheet.SameAs name target) :
    sheet.LeadsTo name brush ↔ sheet.LeadsTo target brush := by
  constructor
  · intro leads
    cases leads with
    | concrete found => cases found.symm.trans link
    | sameAs other leads => rwa [link.unique other]
  · exact .sameAs link

theorem LeadsTo.mem_names (leads : sheet.LeadsTo name brush) : name ∈ sheet.names := by
  cases leads with
  | concrete found => exact mem_names_of_lookup? found
  | sameAs link _ => exact mem_names_of_lookup? link

/-- The last name of a chain has the brush of its own. -/
theorem LeadsTo.exists_concrete (leads : sheet.LeadsTo name brush) :
    ∃ last, sheet.lookup? last = some (.concrete brush) := by
  induction leads with
  | concrete found => exact ⟨_, found⟩
  | sameAs _ _ ih => exact ih

/-- A chain that ends does not come back: each name has one target, so a cycle through a name goes
through all that the chain meets, and the last of them has no target. -/
theorem LeadsTo.not_cyclic (leads : sheet.LeadsTo name brush) :
    ¬ Relation.TransGen sheet.SameAs name name := by
  induction leads with
  | concrete found =>
      intro cycle
      obtain ⟨target, link, -⟩ := Relation.TransGen.head'_iff.mp cycle
      cases found.symm.trans link
  | sameAs link _ ih =>
      intro cycle
      obtain ⟨target, other, back⟩ := Relation.TransGen.head'_iff.mp cycle
      rw [← link.unique other] at back
      exact ih (Relation.TransGen.tail'_iff.mpr ⟨_, back, link⟩)

theorem length_le_size {visited : List String} (distinct : visited.Nodup)
    (known : ∀ earlier ∈ visited, earlier ∈ sheet.names) : visited.length ≤ sheet.size := by
  have bounded := distinct.length_le_of_subset known
  rwa [names, List.length_map] at bounded

section

variable {fuel : Nat} {visited : List String}

/-- The names seen are all different, so the steps do not run out before the names do. -/
theorem follow_eq_some_iff (distinct : visited.Nodup)
    (known : ∀ earlier ∈ visited, earlier ∈ sheet.names)
    (reached : ∀ earlier ∈ visited, Relation.TransGen sheet.SameAs earlier name)
    (room : sheet.size < fuel + visited.length) :
    sheet.follow fuel visited name = some brush ↔ sheet.LeadsTo name brush := by
  induction fuel generalizing visited name with
  | zero =>
      have bounded := length_le_size distinct known
      omega
  | succ fuel ih =>
      by_cases seen : name ∈ visited
      · rw [follow, if_pos seen]
        exact iff_of_false nofun fun leads => leads.not_cyclic (reached name seen)
      · rw [follow, if_neg seen]
        cases found : sheet.lookup? name with
        | none =>
            exact iff_of_false nofun fun leads => notMem_names_of_lookup? found leads.mem_names
        | some entry =>
            cases entry with
            | concrete own =>
                rw [leadsTo_iff_of_concrete found]
                exact Option.some_inj
            | sameAs target =>
                have link : sheet.SameAs name target := found
                rw [leadsTo_iff_of_sameAs link]
                refine ih (distinct.cons seen) ?_ ?_ (by rw [List.length_cons]; omega)
                · exact List.forall_mem_cons.mpr ⟨mem_names_of_lookup? found, known⟩
                · exact List.forall_mem_cons.mpr
                    ⟨.single link, fun earlier member => (reached earlier member).tail link⟩

/-- A walk that meets no fault ends at a brush. -/
theorem leadsTo_of_walk (faultless : sheet.walk fuel visited name = none)
    (distinct : visited.Nodup) (known : ∀ earlier ∈ visited, earlier ∈ sheet.names)
    (member : name ∈ visited) (room : sheet.size < fuel + visited.length) :
    ∃ brush, sheet.LeadsTo name brush := by
  induction fuel generalizing visited name with
  | zero =>
      have bounded := length_le_size distinct known
      omega
  | succ fuel ih =>
      cases found : sheet.lookup? name with
      | none => exact absurd (known name member) (notMem_names_of_lookup? found)
      | some entry =>
          cases entry with
          | concrete brush => exact ⟨brush, .concrete found⟩
          | sameAs target =>
              simp only [walk, found] at faultless
              split at faultless
              · contradiction
              · rename_i fresh
                split at faultless
                · contradiction
                · rename_i kept
                  have registered : target ∈ sheet.names := by
                    rw [← has_iff]
                    simpa using kept
                  obtain ⟨brush, leads⟩ := ih faultless
                    (List.nodup_append_comm.mp (distinct.cons fresh))
                    (List.forall_mem_append.mpr
                      ⟨known, List.forall_mem_singleton.mpr registered⟩)
                    (List.mem_append_right _ List.mem_cons_self)
                    (by rw [List.length_append, List.length_singleton]; omega)
                  exact ⟨brush, .sameAs found leads⟩

/-- Where no alias dangles and none comes back to itself, a walk meets no fault. -/
theorem walk_eq_none
    (closed : ∀ source target, sheet.SameAs source target → sheet.has target = true)
    (acyclic : ∀ name, ¬ Relation.TransGen sheet.SameAs name name)
    (reached : ∀ earlier ∈ visited, Relation.ReflTransGen sheet.SameAs earlier name) :
    sheet.walk fuel visited name = none := by
  induction fuel generalizing visited name with
  | zero => rfl
  | succ fuel ih =>
      rw [walk]
      split
      · rename_i target found
        have link : sheet.SameAs name target := found
        have fresh : target ∉ visited := fun member =>
          acyclic target (Relation.TransGen.tail'_iff.mpr ⟨name, reached target member, link⟩)
        rw [if_neg fresh, closed name target link]
        refine ih (List.forall_mem_append.mpr ⟨?_, List.forall_mem_singleton.mpr .refl⟩)
        exact fun earlier member => (reached earlier member).tail link
      · rfl

end

theorem resolve_eq_some_iff (sheet : Sheet) (name : String) (brush : Brush) :
    sheet.resolve name = some brush ↔ sheet.LeadsTo name brush :=
  follow_eq_some_iff .nil nofun nofun (Nat.lt_succ_self _)

theorem isSome_resolve_iff (sheet : Sheet) (name : String) :
    (sheet.resolve name).isSome = true ↔ ∃ brush, sheet.LeadsTo name brush := by
  simp only [Option.isSome_iff_exists, resolve_eq_some_iff]

theorem leadsTo_of_faultFrom (registered : name ∈ sheet.names)
    (faultless : sheet.faultFrom name = none) : ∃ brush, sheet.LeadsTo name brush :=
  leadsTo_of_walk faultless (List.nodup_singleton name)
    (List.forall_mem_singleton.mpr registered) List.mem_cons_self
    (by rw [List.length_singleton]; omega)

/-- Where every name leads to a brush, no alias dangles and none comes back to itself. -/
theorem closed_acyclic_of_leadsTo (lead : ∀ name ∈ sheet.names, ∃ brush, sheet.LeadsTo name brush) :
    (∀ source target, sheet.SameAs source target → sheet.has target = true) ∧
      ∀ name, ¬ Relation.TransGen sheet.SameAs name name := by
  constructor
  · intro source target link
    obtain ⟨brush, leads⟩ := lead source (mem_names_of_lookup? link)
    exact (has_iff sheet target).mpr ((leadsTo_iff_of_sameAs link).mp leads).mem_names
  · intro name cycle
    obtain ⟨target, link, -⟩ := Relation.TransGen.head'_iff.mp cycle
    obtain ⟨brush, leads⟩ := lead name (mem_names_of_lookup? link)
    exact leads.not_cyclic cycle

theorem validate_eq_ok_iff_leadsTo (sheet : Sheet) :
    sheet.validate = .ok () ↔ ∀ name ∈ sheet.names, ∃ brush, sheet.LeadsTo name brush := by
  rw [validate_eq_ok_iff]
  constructor
  · intro faultless name registered
    exact leadsTo_of_faultFrom registered (faultless name registered)
  · intro lead name _
    obtain ⟨closed, acyclic⟩ := closed_acyclic_of_leadsTo lead
    exact walk_eq_none closed acyclic (List.forall_mem_singleton.mpr .refl)

theorem validate_eq_ok_iff_acyclic (sheet : Sheet) :
    sheet.validate = .ok () ↔
      (∀ source target, sheet.SameAs source target → sheet.has target = true) ∧
        ∀ name, ¬ Relation.TransGen sheet.SameAs name name := by
  constructor
  · intro valid
    exact closed_acyclic_of_leadsTo ((validate_eq_ok_iff_leadsTo sheet).mp valid)
  · rintro ⟨closed, acyclic⟩
    rw [validate_eq_ok_iff]
    intro name _
    exact walk_eq_none closed acyclic (List.forall_mem_singleton.mpr .refl)

/-- Adds names one after the other. -/
def addAll (sheet : Sheet) (additions : List (String × Entry)) : Sheet :=
  additions.foldl (fun sheet addition => sheet.add addition.1 addition.2) sheet

theorem missingIndicator_addAll (sheet : Sheet) (additions : List (String × Entry)) :
    (sheet.addAll additions).missingIndicator = sheet.missingIndicator := by
  induction additions generalizing sheet with
  | nil => rfl
  | cons addition rest ih => exact ih _

theorem lookup_cons_eq_ite (first : String × Entry) (rest : List (String × Entry)) (name : String) :
    (first :: rest).lookup name = if name = first.1 then some first.2 else rest.lookup name := by
  by_cases same : name = first.1
  · rw [if_pos same, List.lookup_cons, beq_iff_eq.mpr same]
  · rw [if_neg same, List.lookup_cons, beq_eq_false_iff_ne.mpr same]

theorem lookup_put (name : String) (entry : Entry) (entries : List (String × Entry))
    (asked : String) :
    (put name entry entries).lookup asked =
      if asked = name then some entry else entries.lookup asked := by
  induction entries with
  | nil => rw [put, lookup_cons_eq_ite]
  | cons first rest ih =>
      rw [put, lookup_cons_eq_ite first rest]
      split
      · rename_i same
        rw [lookup_cons_eq_ite, same]
        split <;> rfl
      · rename_i apart
        rw [lookup_cons_eq_ite, ih]
        split
        · rename_i same
          rw [if_neg (same ▸ apart)]
        · rfl

/-- A name is found with what it was added with last. -/
theorem lookup?_addAll (sheet : Sheet) (additions : List (String × Entry)) (name : String) :
    (sheet.addAll additions).lookup? name =
      (additions.reverse.lookup name).or (sheet.lookup? name) := by
  induction additions generalizing sheet with
  | nil => rfl
  | cons addition rest ih =>
      have added : (sheet.add addition.1 addition.2).lookup? name =
          ([addition].lookup name).or (sheet.lookup? name) := by
        rw [lookup?, add, lookup_put, lookup_cons_eq_ite]
        split <;> rfl
      rw [List.reverse_cons, List.lookup_append, Option.or_assoc, ← added]
      exact ih _

/-- However a sheet was put together, it is valid just when every name added to it resolves, which
is when no alias dangles and no chain of aliases comes back to where it started. -/
theorem validate_eq_ok_iff_resolve (missingIndicator : String)
    (additions : List (String × Entry)) :
    let sheet := addAll { missingIndicator } additions
    (∀ name, sheet.lookup? name = additions.reverse.lookup name) ∧
      (sheet.validate = .ok () ↔
        ∀ name ∈ additions.map Prod.fst, (sheet.resolve name).isSome = true) ∧
      (sheet.validate = .ok () ↔
        (∀ source target, sheet.SameAs source target → sheet.has target = true) ∧
          ∀ name, ¬ Relation.TransGen sheet.SameAs name name) := by
  intro sheet
  have last (name : String) : sheet.lookup? name = additions.reverse.lookup name := by
    rw [lookup?_addAll]
    exact Option.or_none
  have registered (name : String) : name ∈ sheet.names ↔ name ∈ additions.map Prod.fst := by
    rw [← has_iff, has, last, isSome_lookup_iff, List.map_reverse, List.mem_reverse]
  refine ⟨last, ?_, validate_eq_ok_iff_acyclic sheet⟩
  simp only [validate_eq_ok_iff_leadsTo, isSome_resolve_iff, registered]

end WalletScreens.Style.Sheet

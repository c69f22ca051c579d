import WalletScreens.Proofs.Style.Alias

/-!
How long a name is followed, and to where.

`follow` is given a number of steps.  The walk behind it has no such number: it goes on until it is
at a brush, at a name that is not registered, or at one that it has seen.  It always ends, after at
most one look-up more than there are names, so the number that `resolve` gives is never used up.
-/

namespace WalletScreens.Style.Sheet

variable {sheet : Sheet} {name target last : String} {brush : Brush} {visited : List String}
  {lookups : Nat} {result : Option Brush}

/-- The walk from a name, after others were seen, ends with a result, and a name has been looked up
so many times.  Nothing bounds it. -/
inductive Ends (sheet : Sheet) : Nat → List String → String → Option Brush → Prop where
  | seen {visited : List String} {name : String} (again : name ∈ visited) :
      Ends sheet 0 visited name none
  | missing {visited : List String} {name : String} (fresh : name ∉ visited)
      (missing : sheet.lookup? name = none) : Ends sheet 1 visited name none
  | concrete {visited : List String} {name : String} {brush : Brush} (fresh : name ∉ visited)
      (found : sheet.lookup? name = some (.concrete brush)) :
      Ends sheet 1 visited name (some brush)
  | sameAs {lookups : Nat} {visited : List String} {name target : String} {result : Option Brush}
      (fresh : name ∉ visited) (link : sheet.SameAs name target)
      (rest : Ends sheet lookups (name :: visited) target result) :
      Ends sheet (lookups + 1) visited name result

/-- A walk goes one way only. -/
theorem Ends.unique {more : Nat} {other : Option Brush}
    (first : sheet.Ends lookups visited name result) (second : sheet.Ends more visited name other) :
    more = lookups ∧ other = result := by
  induction first generalizing more other with
  | seen again =>
      cases second with
      | seen => exact ⟨rfl, rfl⟩
      | missing fresh | concrete fresh | sameAs fresh => exact absurd again fresh
  | missing fresh missing =>
      cases second with
      | seen again => exact absurd again fresh
      | missing => exact ⟨rfl, rfl⟩
      | concrete _ found | sameAs _ found => cases missing.symm.trans found
  | concrete fresh found =>
      cases second with
      | seen again => exact absurd again fresh
      | missing _ missing => cases missing.symm.trans found
      | concrete _ again =>
          cases found.symm.trans again
          exact ⟨rfl, rfl⟩
      | sameAs _ link => cases found.symm.trans link
  | sameAs fresh link _ ih =>
      cases second with
      | seen again => exact absurd again fresh
      | missing _ missing => cases missing.symm.trans link
      | concrete _ found => cases found.symm.trans link
      | sameAs _ again rest =>
          rw [← link.unique again] at rest
          obtain ⟨count, same⟩ := ih rest
          exact ⟨congrArg (· + 1) count, same⟩

/-- The names seen are registered and all different, so there are fewer look-ups left the more of
them there are. -/
theorem ends_follow {fuel : Nat} (distinct : visited.Nodup)
    (known : ∀ earlier ∈ visited, earlier ∈ sheet.names)
    (room : sheet.size < fuel + visited.length) :
    ∃ lookups, lookups + visited.length ≤ sheet.size + 1 ∧
      sheet.Ends lookups visited name (sheet.follow fuel visited name) := by
  have bounded := length_le_size distinct known
  induction fuel generalizing visited name with
  | zero => omega
  | succ fuel ih =>
      rw [follow]
      by_cases fresh : name ∈ visited
      · rw [if_pos fresh]
        exact ⟨0, by omega, .seen fresh⟩
      · rw [if_neg fresh]
        cases found : sheet.lookup? name with
        | none => exact ⟨1, by omega, .missing fresh found⟩
        | some entry =>
            cases entry with
            | concrete brush => exact ⟨1, by omega, .concrete fresh found⟩
            | sameAs target =>
                have seen : ∀ earlier ∈ name :: visited, earlier ∈ sheet.names :=
                  List.forall_mem_cons.mpr ⟨mem_names_of_lookup? found, known⟩
                obtain ⟨lookups, few, rest⟩ := ih (distinct.cons fresh) seen
                  (by rw [List.length_cons]; omega) (length_le_size (distinct.cons fresh) seen)
                rw [List.length_cons] at few
                exact ⟨lookups + 1, by omega, .sameAs fresh found rest⟩

theorem ends_resolve (sheet : Sheet) (name : String) :
    ∃ lookups ≤ sheet.size + 1, sheet.Ends lookups [] name (sheet.resolve name) :=
  ends_follow .nil (List.forall_mem_nil _) (Nat.lt_succ_self _)

/-- A walk without a brush stops at a name that is not registered, or it goes round in a cycle. -/
theorem Ends.exists_of_none (ends : sheet.Ends lookups visited name none)
    (reached : ∀ earlier ∈ visited, Relation.TransGen sheet.SameAs earlier name) :
    ∃ last, Relation.ReflTransGen sheet.SameAs name last ∧
      (sheet.lookup? last = none ∨ Relation.TransGen sheet.SameAs last last) := by
  generalize brushless : (none : Option Brush) = result at ends
  induction ends with
  | seen again => exact ⟨_, .refl, .inr (reached _ again)⟩
  | missing _ missing => exact ⟨_, .refl, .inl missing⟩
  | concrete => cases brushless
  | sameAs _ link _ ih =>
      obtain ⟨last, path, stopped⟩ := ih
        (List.forall_mem_cons.mpr
          ⟨.single link, fun earlier member => (reached earlier member).tail link⟩) brushless
      exact ⟨last, .head link path, stopped⟩

theorem leadsTo_iff_exists (sheet : Sheet) (name : String) (brush : Brush) :
    sheet.LeadsTo name brush ↔
      ∃ last, Relation.ReflTransGen sheet.SameAs name last ∧
        sheet.lookup? last = some (.concrete brush) := by
  constructor
  · intro leads
    induction leads with
    | concrete found => exact ⟨_, .refl, found⟩
    | sameAs link _ ih =>
        obtain ⟨last, path, found⟩ := ih
        exact ⟨last, .head link path, found⟩
  · rintro ⟨last, path, found⟩
    induction path using Relation.ReflTransGen.head_induction_on with
    | refl => exact .concrete found
    | head link _ ih => exact .sameAs link ih

/-- All names on the way have the brush at its end. -/
theorem LeadsTo.of_path (leads : sheet.LeadsTo name brush)
    (path : Relation.ReflTransGen sheet.SameAs name last) : sheet.LeadsTo last brush := by
  induction path with
  | refl => exact leads
  | tail _ link ih => exact (leadsTo_iff_of_sameAs link).mp ih

theorem resolve_eq_none_iff (sheet : Sheet) (name : String) :
    sheet.resolve name = none ↔
      ∃ last, Relation.ReflTransGen sheet.SameAs name last ∧
        (sheet.lookup? last = none ∨ Relation.TransGen sheet.SameAs last last) := by
  constructor
  · intro unresolved
    obtain ⟨lookups, -, ends⟩ := sheet.ends_resolve name
    rw [unresolved] at ends
    exact ends.exists_of_none (List.forall_mem_nil _)
  · rintro ⟨last, path, stopped⟩
    rw [Option.eq_none_iff_forall_ne_some]
    intro brush resolved
    have leads := ((resolve_eq_some_iff sheet name brush).mp resolved).of_path path
    rcases stopped with missing | cycle
    · exact notMem_names_of_lookup? missing leads.mem_names
    · exact leads.not_cyclic cycle

theorem resolve_eq_of_sameAs (link : sheet.SameAs name target) :
    sheet.resolve name = sheet.resolve target := by
  ext brush
  rw [resolve_eq_some_iff, resolve_eq_some_iff, leadsTo_iff_of_sameAs link]

/-- Every name is followed to an end, in one way and with at most one look-up more than there are
names.  It has a brush just when a chain of aliases, however long, leads to one, and none just when
the chain stops at a name that is not registered or meets a cycle.  Both ways of applying a style
take a name for known if it has a brush. -/
theorem resolve_follows_aliases (sheet : Sheet) (name : String) :
    (∃ lookups ≤ sheet.size + 1, ∀ count result,
        sheet.Ends count [] name result ↔ count = lookups ∧ result = sheet.resolve name) ∧
      (∀ brush, sheet.resolve name = some brush ↔
        ∃ last, Relation.ReflTransGen sheet.SameAs name last ∧
          sheet.lookup? last = some (.concrete brush)) ∧
      (sheet.resolve name = none ↔
        ∃ last, Relation.ReflTransGen sheet.SameAs name last ∧
          (sheet.lookup? last = none ∨ Relation.TransGen sheet.SameAs last last)) ∧
      (∀ target, sheet.lookup? name = some (.sameAs target) →
        sheet.resolve name = sheet.resolve target) ∧
      ((∃ brush, sheet.resolve name = some brush ∧ ∀ text,
          (∀ color, sheet.apply name text color = if color then brush.paint text else text) ∧
          sheet.applyTagged name text = "[" ++ name ++ "]" ++ text ++ "[/" ++ name ++ "]") ∨
        (sheet.resolve name = none ∧ ∀ text,
          (∀ color, sheet.apply name text color = sheet.missingIndicator ++ " " ++ text) ∧
          sheet.applyTagged name text =
            "[" ++ (name ++ "?") ++ "]" ++ text ++ "[/" ++ (name ++ "?") ++ "]")) := by
  refine ⟨?_, ?_, sheet.resolve_eq_none_iff name, ?_, ?_⟩
  · obtain ⟨lookups, few, ends⟩ := sheet.ends_resolve name
    refine ⟨lookups, few, fun count result => ⟨ends.unique, ?_⟩⟩
    rintro ⟨rfl, rfl⟩
    exact ends
  · intro brush
    rw [resolve_eq_some_iff, leadsTo_iff_exists]
  · exact fun target link => resolve_eq_of_sameAs link
  · cases resolved : sheet.resolve name with
    | some brush => exact .inl ⟨brush, rfl, by simp [apply, applyTagged, resolved]⟩
    | none => exact .inr ⟨rfl, by simp [apply, applyTagged, resolved]⟩

/-- An alias of an alias has the brush at the end, and a cycle beside the two has none. -/
theorem resolve_of_alias_of_alias :
    let sheet : Sheet :=
      { entries := [("card.votes", .sameAs "accent"), ("accent", .sameAs "primary"),
          ("primary", .concrete { bold := true }), ("up", .sameAs "down"),
          ("down", .sameAs "up")] }
    sheet.lookup? "card.votes" = some (.sameAs "accent") ∧
      sheet.resolve "card.votes" = sheet.resolve "accent" ∧
      sheet.resolve "card.votes" = some { bold := true } ∧ sheet.resolve "up" = none := by
  intro sheet
  have first : sheet.lookup? "card.votes" = some (.sameAs "accent") := by decide
  have second : sheet.SameAs "accent" "primary" := by unfold SameAs; decide
  have up : sheet.SameAs "up" "down" := by unfold SameAs; decide
  have down : sheet.SameAs "down" "up" := by unfold SameAs; decide
  obtain ⟨-, brush, -, alike, -⟩ := resolve_follows_aliases sheet "card.votes"
  obtain ⟨-, -, brushless, -⟩ := resolve_follows_aliases sheet "up"
  refine ⟨first, alike "accent" first, ?_, ?_⟩
  · exact (brush _).mpr ⟨"primary", .tail (.single first) second, by decide⟩
  · exact brushless.mpr ⟨"up", .refl, .inr (.tail (.single up) down)⟩

end WalletScreens.Style.Sheet

import Mathlib.Data.List.Chain
import WalletScreens.Proofs.Style.Alias

/-!
What a fault of a sheet tells.

Validation reports the walk from the least name that leads to no brush.  The names of the fault are
those that the walk meets, so they are aliases of each other as the fault says.  Nothing of it hangs
on the order in which the names were added.
-/

namespace WalletScreens.Style.Sheet

variable {sheet other : Sheet} {start name target : String} {fuel : Nat} {visited : List String}
  {fault : SheetFault} {brush : Brush}

/-- A walk has come to a name, by aliases only and meeting each name once. -/
structure Walked (sheet : Sheet) (start : String) (visited : List String) (name : String) :
    Prop where
  first : visited.head? = some start
  last : visited.getLast? = some name
  chain : visited.IsChain sheet.SameAs
  distinct : visited.Nodup

namespace Walked

theorem refl (sheet : Sheet) (start : String) : sheet.Walked start [start] start :=
  ⟨rfl, rfl, .singleton start, List.nodup_singleton start⟩

theorem chain_concat (walked : sheet.Walked start visited name) (link : sheet.SameAs name target) :
    (visited ++ [target]).IsChain sheet.SameAs := by
  refine walked.chain.append (.singleton target) fun last atEnd next atStart => ?_
  rw [walked.last, Option.mem_some_iff] at atEnd
  rw [List.head?_singleton, Option.mem_some_iff] at atStart
  rwa [← atEnd, ← atStart]

theorem concat (walked : sheet.Walked start visited name) (link : sheet.SameAs name target)
    (fresh : target ∉ visited) : sheet.Walked start (visited ++ [target]) target where
  first := by rw [List.head?_append, walked.first, Option.some_or]
  last := List.getLast?_concat
  chain := walked.chain_concat link
  distinct := List.nodup_append_comm.mp (walked.distinct.cons fresh)

theorem reached (walked : sheet.Walked start visited name) :
    Relation.ReflTransGen sheet.SameAs start name := by
  have nonempty : visited ≠ [] := by
    rintro rfl
    cases walked.first
  have path := List.relationReflTransGen_of_exists_isChain visited walked.chain nonempty
  rwa [List.head_of_head?_eq_some walked.first,
    List.getLast_of_getLast?_eq_some walked.last] at path

end Walked

/-- What a fault says of the walk from a name: that it comes to an alias of a name which is not
registered, or to a name which it has met before. -/
def Reports (sheet : Sheet) (start : String) : SheetFault → Prop
  | .unresolvedAlias source target =>
      Relation.ReflTransGen sheet.SameAs start source ∧ sheet.SameAs source target ∧
        sheet.has target = false
  | .cycle path =>
      ∃ visited last, path = visited ++ [last] ∧ visited.head? = some start ∧
        path.IsChain sheet.SameAs ∧ visited.Nodup ∧ last ∈ visited

theorem reports_of_walk (found : sheet.walk fuel visited name = some fault)
    (walked : sheet.Walked start visited name) : sheet.Reports start fault := by
  induction fuel generalizing visited name with
  | zero => cases found
  | succ fuel ih =>
      rw [walk] at found
      split at found
      · rename_i target link
        split at found
        · rename_i again
          cases found
          exact ⟨visited, target, rfl, walked.first, walked.chain_concat link, walked.distinct,
            again⟩
        · rename_i fresh
          split at found
          · rename_i missing
            cases found
            exact ⟨walked.reached, link, by simpa using missing⟩
          · exact ih found (walked.concat link fresh)
      · cases found

theorem reports_of_faultFrom (found : sheet.faultFrom start = some fault) :
    sheet.Reports start fault :=
  reports_of_walk found (.refl sheet start)

/-- The least registered name, in code point order, that leads to no brush. -/
structure LeastUnresolved (sheet : Sheet) (name : String) : Prop where
  registered : name ∈ sheet.names
  unresolved : sheet.resolve name = none
  least : ∀ other ∈ sheet.names, sheet.resolve other = none → name ≤ other

theorem LeastUnresolved.unique {another : String} (first : sheet.LeastUnresolved name)
    (second : sheet.LeastUnresolved another) : name = another :=
  String.le_antisymm (first.least another second.registered second.unresolved)
    (second.least name first.registered first.unresolved)

/-- A chain that ends at a brush neither comes back nor leaves the registered names. -/
theorem walk_eq_none_of_leadsTo (leads : sheet.LeadsTo name brush)
    (reached : ∀ earlier ∈ visited, Relation.ReflTransGen sheet.SameAs earlier name) :
    sheet.walk fuel visited name = none := by
  induction fuel generalizing visited name with
  | zero => rfl
  | succ fuel ih =>
      rw [walk]
      split
      · rename_i target found
        have link : sheet.SameAs name target := found
        have onward := (leadsTo_iff_of_sameAs link).mp leads
        have fresh : target ∉ visited := fun member =>
          onward.not_cyclic (Relation.TransGen.tail'_iff.mpr ⟨name, reached target member, link⟩)
        rw [if_neg fresh, (has_iff sheet target).mpr onward.mem_names]
        refine ih onward (List.forall_mem_append.mpr ⟨?_, List.forall_mem_singleton.mpr .refl⟩)
        exact fun earlier member => (reached earlier member).tail link
      · rfl

theorem faultFrom_eq_none_iff (registered : name ∈ sheet.names) :
    sheet.faultFrom name = none ↔ (sheet.resolve name).isSome = true := by
  rw [isSome_resolve_iff]
  constructor
  · exact leadsTo_of_faultFrom registered
  · rintro ⟨brush, leads⟩
    exact walk_eq_none_of_leadsTo leads (List.forall_mem_singleton.mpr .refl)

theorem pairwise_sortedNames (sheet : Sheet) : sheet.sortedNames.Pairwise (· ≤ ·) := by
  have sorted : sheet.sortedNames.Pairwise fun first second => decide (first ≤ second) = true :=
    List.pairwise_mergeSort (fun first second third => by simpa using String.le_trans)
      (fun first second => by simpa using String.le_total first second) sheet.names
  exact sorted.imp of_decide_eq_true

theorem mem_sortedNames : name ∈ sheet.sortedNames ↔ name ∈ sheet.names :=
  List.mem_mergeSort

/-- Validation fails with the fault of the least name that leads to no brush. -/
theorem exists_least_of_validate (failed : sheet.validate = .error fault) :
    ∃ least, sheet.LeastUnresolved least ∧ sheet.faultFrom least = some fault := by
  unfold validate at failed
  split at failed
  · rename_i found searched
    cases failed
    obtain ⟨before, least, after, split, found, faultless⟩ :=
      List.findSome?_eq_some_iff.mp searched
    have inside : least ∈ sheet.sortedNames :=
      split ▸ List.mem_append_right before List.mem_cons_self
    have registered := mem_sortedNames.mp inside
    refine ⟨least, ⟨registered, ?_, fun other known unresolved => ?_⟩, found⟩
    · have faulty := (faultFrom_eq_none_iff registered).not.mp (by simp [found])
      simpa using faulty
    · have sorted := sheet.pairwise_sortedNames
      have member := mem_sortedNames.mpr known
      rw [split] at sorted member
      rcases List.mem_append.mp member with earlier | later
      · have resolved := (faultFrom_eq_none_iff known).mp (faultless other earlier)
        simp [unresolved] at resolved
      · rcases List.mem_cons.mp later with rfl | later
        · exact String.le_refl _
        · exact (List.pairwise_cons.mp (List.pairwise_append.mp sorted).2.1).1 other later
  · cases failed

theorem validate_eq_error_iff :
    sheet.validate = .error fault ↔
      ∃ least, sheet.LeastUnresolved least ∧ sheet.faultFrom least = some fault := by
  constructor
  · exact exists_least_of_validate
  · rintro ⟨least, isLeast, found⟩
    cases checked : sheet.validate with
    | ok =>
        rw [validate_eq_ok_iff] at checked
        simp [checked least isLeast.registered] at found
    | error reported =>
        obtain ⟨first, isFirst, reports⟩ := exists_least_of_validate checked
        rw [isFirst.unique isLeast, found] at reports
        cases reports
        rfl

/-- Two walks that both meet a fault meet the same one, however many steps each may take. -/
theorem walk_unique {steps : Nat} {another : SheetFault}
    (found : sheet.walk fuel visited name = some fault)
    (again : sheet.walk steps visited name = some another) : another = fault := by
  induction fuel generalizing steps visited name with
  | zero => cases found
  | succ fuel ih =>
      cases steps with
      | zero => cases again
      | succ steps =>
          rw [walk] at found again
          split at found
          · rename_i target link
            rw [link] at again
            dsimp only at again
            split at found
            · rename_i met
              rw [if_pos met] at again
              exact Option.some_inj.mp (again.symm.trans found)
            · rename_i fresh
              rw [if_neg fresh] at again
              split at found
              · rename_i missing
                rw [if_pos missing] at again
                exact Option.some_inj.mp (again.symm.trans found)
              · rename_i registered
                rw [if_neg registered] at again
                exact ih found again
          · cases found

section

variable (same : ∀ name, other.lookup? name = sheet.lookup? name)
include same

theorem has_congr (name : String) : other.has name = sheet.has name := by
  rw [has, has, same]

theorem walk_congr : other.walk fuel visited name = sheet.walk fuel visited name := by
  induction fuel generalizing visited name with
  | zero => rfl
  | succ fuel ih => simp only [walk, same, has_congr same, ih]

theorem leadsTo_congr (leads : sheet.LeadsTo name brush) : other.LeadsTo name brush := by
  induction leads with
  | concrete found => exact .concrete ((same _).trans found)
  | sameAs link _ ih => exact .sameAs ((same _).trans link) ih

theorem resolve_congr (name : String) : other.resolve name = sheet.resolve name := by
  ext brush
  rw [resolve_eq_some_iff, resolve_eq_some_iff]
  exact ⟨leadsTo_congr fun name => (same name).symm, leadsTo_congr same⟩

theorem LeastUnresolved.congr (least : sheet.LeastUnresolved name) :
    other.LeastUnresolved name := by
  have known (name : String) : name ∈ other.names ↔ name ∈ sheet.names := by
    rw [← has_iff, ← has_iff, has_congr same]
  obtain ⟨registered, unresolved, below⟩ := least
  refine ⟨(known name).mpr registered, (resolve_congr same name).trans unresolved, ?_⟩
  intro next member unresolved
  exact below next ((known next).mp member) ((resolve_congr same next).symm.trans unresolved)

theorem validate_error_congr (failed : sheet.validate = .error fault) :
    other.validate = .error fault := by
  obtain ⟨least, isLeast, found⟩ := validate_eq_error_iff.mp failed
  have isLeast := isLeast.congr same
  have faulty := (faultFrom_eq_none_iff isLeast.registered).not.mpr (by simp [isLeast.unresolved])
  obtain ⟨another, again⟩ := Option.ne_none_iff_exists'.mp faulty
  have agree : another = fault := walk_unique found ((walk_congr same).symm.trans again)
  rw [validate_eq_error_iff, ← agree]
  exact ⟨least, isLeast, again⟩

/-- What is registered decides the verdict, in whatever order it came to be registered. -/
theorem validate_congr : other.validate = sheet.validate := by
  cases checked : sheet.validate with
  | error fault => exact validate_error_congr same checked
  | ok =>
      cases again : other.validate with
      | ok => rfl
      | error fault =>
          have failed := validate_error_congr (fun name => (same name).symm) again
          exact absurd (checked.symm.trans failed) nofun

end

/-- A fault is true of the sheet, and it is the one of the least name that leads to no brush.  The
alias it names stands for a name that is not registered; the path it names goes along aliases, meets
each name once, and ends with one that it has met.  Sheets with the same entries give the same
verdict, however their entries were added. -/
theorem fault_of_least_unresolved (sheet : Sheet) :
    (∀ source target, sheet.validate = .error (.unresolvedAlias source target) →
        sheet.lookup? source = some (.sameAs target) ∧ sheet.has target = false ∧
        ∃ least, sheet.LeastUnresolved least ∧
          Relation.ReflTransGen sheet.SameAs least source) ∧
      (∀ path, sheet.validate = .error (.cycle path) →
        2 ≤ path.length ∧ path.IsChain sheet.SameAs ∧ path.dropLast.Nodup ∧
        (∃ last ∈ path.dropLast, path.getLast? = some last) ∧
        ∃ least, sheet.LeastUnresolved least ∧ path.head? = some least) ∧
      ∀ other : Sheet, (∀ name, other.lookup? name = sheet.lookup? name) →
        other.validate = sheet.validate := by
  refine ⟨?_, ?_, fun other => validate_congr⟩
  · intro source target failed
    obtain ⟨least, isLeast, found⟩ := validate_eq_error_iff.mp failed
    obtain ⟨reached, link, missing⟩ := reports_of_faultFrom found
    exact ⟨link, missing, least, isLeast, reached⟩
  · intro path failed
    obtain ⟨least, isLeast, found⟩ := validate_eq_error_iff.mp failed
    obtain ⟨visited, last, rfl, first, chain, distinct, again⟩ := reports_of_faultFrom found
    refine ⟨?_, chain, ?_, ⟨last, ?_, List.getLast?_concat⟩, least, isLeast, ?_⟩
    · have nonempty := List.length_pos_of_mem again
      rw [List.length_append, List.length_singleton]
      omega
    · rwa [List.dropLast_concat]
    · rwa [List.dropLast_concat]
    · rw [List.head?_append, first, Option.some_or]

/-- A name that leads into a cycle without being on it, and the same names added in another order,
one of them twice.  Beside them a name that leads to an alias of nothing. -/
theorem fault_of_name_before_cycle :
    let sheet := addAll {} [("label", .sameAs "muted"), ("muted", .sameAs "label"),
      ("accent", .sameAs "muted")]
    let reordered := addAll {} [("accent", .sameAs "label"), ("muted", .sameAs "label"),
      ("label", .sameAs "muted"), ("accent", .sameAs "muted")]
    let dangling := addAll {} [("label", .sameAs "ghost"), ("card", .sameAs "label")]
    (sheet.validate = .error (.cycle ["accent", "muted", "label", "muted"]) ∧
      reordered.validate = sheet.validate ∧
      (["accent", "muted", "label", "muted"].IsChain sheet.SameAs) ∧
      sheet.LeastUnresolved "accent") ∧
    dangling.validate = .error (.unresolvedAlias "label" "ghost") ∧
      ∃ least, dangling.LeastUnresolved least ∧
        Relation.ReflTransGen dangling.SameAs least "label" := by
  intro sheet reordered dangling
  have cyclic : sheet.validate = .error (.cycle ["accent", "muted", "label", "muted"]) := by
    rw [validate_eq_error_iff]
    exact ⟨"accent", ⟨by decide, by decide, by decide⟩, by decide⟩
  have missing : dangling.validate = .error (.unresolvedAlias "label" "ghost") := by
    rw [validate_eq_error_iff]
    exact ⟨"card", ⟨by decide, by decide, by decide⟩, by decide⟩
  have same (name : String) : reordered.lookup? name = sheet.lookup? name := by
    simp only [reordered, sheet, lookup?_addAll, List.reverse_cons, List.reverse_nil,
      List.nil_append, List.cons_append, lookup_cons_eq_ite]
    grind
  obtain ⟨-, cycles, verdict⟩ := fault_of_least_unresolved sheet
  obtain ⟨-, chain, -, -, least, isLeast, first⟩ := cycles _ cyclic
  cases first
  obtain ⟨aliases, -, -⟩ := fault_of_least_unresolved dangling
  obtain ⟨-, -, reached⟩ := aliases _ _ missing
  exact ⟨⟨cyclic, verdict reordered same, chain, isLeast⟩, missing, reached⟩

end WalletScreens.Style.Sheet
